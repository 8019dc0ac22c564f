import Lineage.Decimal.Shortest
import Lineage.Json.Basic

/-!
# JSON text

JSON values are written over several lines, each level indented by two spaces;
an empty array or object stays on its line. Of the characters of a string only
the quote, the backslash and control characters are escaped.
-/

namespace Lineage.JsonValue

/-- The form of a character inside a string. -/
def escaped (c : Char) : List Char :=
  if c = '"' then ['\\', '"']
  else if c = '\\' then ['\\', '\\']
  else if c = '\n' then ['\\', 'n']
  else if c = '\r' then ['\\', 'r']
  else if c = '\t' then ['\\', 't']
  else if c.toNat = 8 then ['\\', 'b']
  else if c.toNat = 12 then ['\\', 'f']
  else if c.toNat < 32 then
    let digits := Nat.toDigits 16 c.toNat
    ['\\', 'u'] ++ List.replicate (4 - digits.length) '0' ++ digits
  else [c]

/-- A string in quotes. -/
def quotedText (s : String) : String :=
  "\"" ++ String.ofList (s.toList.flatMap escaped) ++ "\""

/-- A new line with its indentation. -/
def newLine (depth : Nat) : String :=
  .ofList ('\n' :: List.replicate (2 * depth) ' ')

mutual

/-- The text of a value whose first line stands at a level of indentation. -/
def prettyAt (depth : Nat) : JsonValue → String
  | null => "null"
  | bool b => if b then "true" else "false"
  | integer n => toString n
  | real literal => literal
  | string s => quotedText s
  | array [] => "[]"
  | array (first :: rest) =>
    "[" ++ newLine (depth + 1) ++ prettyAt (depth + 1) first ++ prettyItems depth rest ++
      newLine depth ++ "]"
  | object [] => "\x7b\x7d"
  | object ((name, value) :: rest) =>
    "\x7b" ++ newLine (depth + 1) ++ quotedText name ++ ": " ++ prettyAt (depth + 1) value ++
      prettyMembers depth rest ++ newLine depth ++ "\x7d"

/-- The further items of an array. -/
def prettyItems (depth : Nat) : List JsonValue → String
  | [] => ""
  | value :: rest =>
    "," ++ newLine (depth + 1) ++ prettyAt (depth + 1) value ++ prettyItems depth rest

/-- The further members of an object. -/
def prettyMembers (depth : Nat) : List (String × JsonValue) → String
  | [] => ""
  | (name, value) :: rest =>
    "," ++ newLine (depth + 1) ++ quotedText name ++ ": " ++ prettyAt (depth + 1) value ++
      prettyMembers depth rest

end

/-- The text of a value. -/
def pretty (value : JsonValue) : String :=
  value.prettyAt 0

/-- The text of a decimal as a JSON number: positional where the point stands
at most thirteen digits behind the first digit or less than six in front of
it, with `.0` for a whole number, and with an exponent otherwise. -/
def decimalLiteral (d : Decimal.Digits) : List Char :=
  let ds := Nat.toDigits 10 d.digits
  let point : Int := ds.length + d.exponent
  if d.digits = 0 then ['0', '.', '0']
  else if 0 ≤ d.exponent ∧ point ≤ 13 then d.plain ++ ['.', '0']
  else if d.exponent < 0 ∧ -6 < point ∧ point ≤ 13 then d.plain
  else
    let mantissa :=
      match ds with
      | [] => []
      | [c] => [c]
      | c :: rest => c :: '.' :: rest
    mantissa ++ 'e' :: (toString (point - 1)).toList

/-- A 32-bit number as a JSON value; null when it is not finite. -/
def ofFloat32 (x : Float32) : JsonValue :=
  match Decimal.Binary.ofFloat32 x with
  | .finite negative m e narrow =>
    let digits := if m = 0 then ⟨0, 0⟩ else Decimal.shortest m e narrow
    let literal := decimalLiteral digits
    real (.ofList (if negative then '-' :: literal else literal))
  | _ => null

end Lineage.JsonValue
