import Lineage.Decimal.Whole
import Lineage.Json.Basic
import Lineage.Text.Hexadecimal
import Lineage.Text.Split

/-!
# Reading JSON

A strict reader: one value with nothing but white space around it, no control
characters in a string, and no half of a surrogate pair on its own. The members
of an object are kept as they are written, repeated names included.
-/

namespace Lineage.JsonValue

/-- The white space between the parts of a value. -/
def isSpace (c : Char) : Bool :=
  c == ' ' || c == '\n' || c == '\t' || c == '\r'

/-- The text behind the white space at its start. -/
def skipSpace (cs : List Char) : List Char :=
  cs.dropWhile isSpace

/-! ## Strings -/

/-- The number of four hexadecimal digits. -/
def unit? (a b c d : Char) : Option Nat :=
  Chars.hexNumber? [a, b, c, d]

/-- Whether a unit is the first half of a surrogate pair. -/
def isHighSurrogate (n : Nat) : Bool :=
  0xD800 ≤ n && n < 0xDC00

/-- Whether a unit is the second half of a surrogate pair. -/
def isLowSurrogate (n : Nat) : Bool :=
  0xDC00 ≤ n && n < 0xE000

/-- The character of a surrogate pair. -/
def ofSurrogates (high low : Nat) : Char :=
  Char.ofNat (0x10000 + 1024 * (high - 0xD800) + (low - 0xDC00))

/-- The character that a letter behind a backslash stands for. -/
def escape? : Char → Option Char
  | '"' => some '"'
  | '\\' => some '\\'
  | '/' => some '/'
  | 'b' => some '\x08'
  | 'f' => some '\x0c'
  | 'n' => some '\n'
  | 'r' => some '\r'
  | 't' => some '\t'
  | _ => none

/-- The text of a string behind its opening quote, and what follows its
closing one. -/
def stringBody? : List Char → Option (List Char × List Char)
  | [] => none
  | '"' :: rest => some ([], rest)
  | '\\' :: 'u' :: a :: b :: c :: d :: rest =>
    match unit? a b c d with
    | none => none
    | some n =>
      if isLowSurrogate n then none
      else if isHighSurrogate n then
        match rest with
        | '\\' :: 'u' :: a :: b :: c :: d :: rest =>
          match unit? a b c d with
          | none => none
          | some low =>
            if isLowSurrogate low then
              (stringBody? rest).map fun (text, rest) => (ofSurrogates n low :: text, rest)
            else none
        | _ => none
      else (stringBody? rest).map fun (text, rest) => (Char.ofNat n :: text, rest)
  | '\\' :: letter :: rest =>
    match escape? letter with
    | none => none
    | some c => (stringBody? rest).map fun (text, rest) => (c :: text, rest)
  | c :: rest =>
    if c.toNat < 0x20 ∨ c = '\\' then none
    else (stringBody? rest).map fun (text, rest) => (c :: text, rest)

/-! ## Numbers -/

/-- Whether a run of digits is the whole part of a number, which has no zeros
in front. -/
def isWholePart (digits : List Char) : Bool :=
  match digits with
  | [] => false
  | '0' :: rest => rest.isEmpty
  | _ => true

/-- The fraction behind a whole part, with its point; empty when there is
none. -/
def fraction? (cs : List Char) : Option (List Char × List Char) :=
  match cs with
  | '.' :: rest =>
    let digits := rest.takeWhile Char.isDigit
    if digits.isEmpty then none else some ('.' :: digits, rest.drop digits.length)
  | _ => some ([], cs)

/-- The exponent behind a number, with its letter; empty when there is
none. -/
def exponent? (cs : List Char) : Option (List Char × List Char) :=
  match cs with
  | e :: rest =>
    if e = 'e' ∨ e = 'E' then
      let sign := rest.takeWhile fun c => c == '+' || c == '-'
      let digits := (rest.drop sign.length).takeWhile Char.isDigit
      if 1 < sign.length || digits.isEmpty then none
      else some (e :: (sign ++ digits), rest.drop (sign.length + digits.length))
    else some ([], cs)
  | [] => some ([], [])

/-- A number, and what follows. One that is negative zero or has a fraction or
an exponent is no whole number. -/
def number? (cs : List Char) : Option (JsonValue × List Char) := do
  let (negative, unsigned) := match cs with
    | '-' :: rest => (true, rest)
    | _ => (false, cs)
  let whole := unsigned.takeWhile Char.isDigit
  if !isWholePart whole then none
  else
    let (fraction, rest) ← fraction? (unsigned.drop whole.length)
    let (exponent, rest) ← exponent? rest
    let n ← Decimal.ofDigits? whole
    if fraction.isEmpty && exponent.isEmpty && !(negative && n == 0) then
      return (integer (if negative then -(n : Int) else n), rest)
    else
      let sign := if negative then ['-'] else []
      return (real (.ofList (sign ++ whole ++ fraction ++ exponent)), rest)

/-! ## Values -/

mutual

/-- A value, and what follows; `fuel` bounds the nesting and the number of
items. -/
def value? : Nat → List Char → Option (JsonValue × List Char)
  | 0, _ => none
  | fuel + 1, cs =>
    match skipSpace cs with
    | '"' :: rest => (stringBody? rest).map fun (text, rest) => (string (.ofList text), rest)
    | '[' :: rest =>
      match skipSpace rest with
      | ']' :: rest => some (array [], rest)
      | rest => (items? fuel rest).map fun (items, rest) => (array items, rest)
    | '\x7b' :: rest =>
      match skipSpace rest with
      | '\x7d' :: rest => some (object [], rest)
      | rest => (members? fuel rest).map fun (members, rest) => (object members, rest)
    | 'n' :: 'u' :: 'l' :: 'l' :: rest => some (null, rest)
    | 't' :: 'r' :: 'u' :: 'e' :: rest => some (bool true, rest)
    | 'f' :: 'a' :: 'l' :: 's' :: 'e' :: rest => some (bool false, rest)
    | cs => number? cs

/-- The items of an array up to its closing bracket, and what follows it. -/
def items? : Nat → List Char → Option (List JsonValue × List Char)
  | 0, _ => none
  | fuel + 1, cs => do
    let (item, rest) ← value? fuel cs
    match skipSpace rest with
    | ',' :: rest => (items? fuel rest).map fun (items, rest) => (item :: items, rest)
    | ']' :: rest => some ([item], rest)
    | _ => none

/-- The members of an object up to its closing brace, and what follows it. -/
def members? : Nat → List Char → Option (List (String × JsonValue) × List Char)
  | 0, _ => none
  | fuel + 1, cs => do
    let rest ← Chars.after? ['"'] (skipSpace cs)
    let (name, rest) ← stringBody? rest
    let rest ← Chars.after? [':'] (skipSpace rest)
    let (value, rest) ← value? fuel rest
    let member := (String.ofList name, value)
    match skipSpace rest with
    | ',' :: rest => (members? fuel rest).map fun (members, rest) => (member :: members, rest)
    | '\x7d' :: rest => some ([member], rest)
    | _ => none

end

/-- Reads a text that is one value. -/
def parse? (text : String) : Option JsonValue :=
  match value? (2 * text.toList.length + 2) text.toList with
  | some (value, rest) => if (skipSpace rest).isEmpty then some value else none
  | none => none

end Lineage.JsonValue
