import Lineage.Decimal.Whole
import Lineage.Text.Hexadecimal
import Lineage.Text.Split

/-!
# Entities and character references

What `&name;`, `&#N;` and `&#xH;` stand for. In the value of an attribute one
reference that stands for nothing leaves the whole value as it is written; in
text each reference is taken by itself, and the rules for numbers are
laxer there.
-/

namespace Lineage.Markup

/-- The character of a predefined entity. -/
def entity? (name : List Char) : Option Char :=
  match String.ofList name with
  | "lt" => some '<'
  | "gt" => some '>'
  | "amp" => some '&'
  | "apos" => some '\''
  | "quot" => some '"'
  | _ => none

/-- The character with a code point. -/
def codePoint? (n : Nat) : Option Char :=
  if n.isValidChar then some (Char.ofNat n) else none

/-- A number without its plus sign. -/
def dropPlus (cs : List Char) : List Char :=
  match cs with
  | '+' :: rest => rest
  | _ => cs

/-- What a reference in the value of an attribute stands for. A number has no
sign and is not zero, and a hexadecimal one starts with a small `x`. -/
def attributeReference? (name : List Char) : Option Char :=
  match name with
  | '#' :: 'x' :: digits => (Chars.hexNumber? digits).bind code
  | '#' :: digits => (Decimal.ofDigits? digits).bind code
  | _ => entity? name
where
  /-- A code point other than zero. -/
  code (n : Nat) : Option Char :=
    if n = 0 then none else codePoint? n

/-- What a reference in text stands for; an unknown one is kept as it is
written. A number may have a plus sign. -/
def textReference (name : String) : String :=
  let found :=
    match name.toList with
    | '#' :: 'x' :: digits | '#' :: 'X' :: digits =>
      (Chars.hexNumber? (dropPlus digits)).bind codePoint?
    | '#' :: digits => (Decimal.ofDigits? (dropPlus digits)).bind codePoint?
    | _ => entity? name.toList
  match found with
  | some c => String.singleton c
  | none => "&" ++ name ++ ";"

/-- Resolves the references of a value; none when one of them is not closed or
stands for nothing. `fuel` bounds their number. -/
def resolveAll? : Nat → List Char → Option (List Char)
  | _, [] => some []
  | 0, cs => some cs
  | fuel + 1, '&' :: rest => do
    let (name, after) ← Chars.cut? ';' rest
    if name.contains '&' then none
    else
      let c ← attributeReference? name
      let more ← resolveAll? fuel after
      some (c :: more)
  | fuel + 1, c :: rest => (resolveAll? fuel rest).map (c :: ·)

/-- The value of an attribute from the text between its quotes. -/
def attributeValue (cs : List Char) : List Char :=
  (resolveAll? cs.length cs).getD cs

end Lineage.Markup
