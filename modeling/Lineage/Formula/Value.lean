import Lineage.Decimal.Reading
import Lineage.Decimal.Shortest
import Lineage.Text.Split

/-!
# Values of formulas

A value is nothing, a truth value, a number or a text. Each kind has a reading
as each other kind, and the comparisons `==`, `<` and the like work on any two
values through these readings.
-/

namespace Lineage

/-- A value of a formula. -/
inductive Value where
  | null
  | bool (b : Bool)
  | number (x : Float)
  | text (s : String)

namespace Value

/-- A number as text: without a point when it is whole and below 10^15. -/
def numberText (x : Float) : String :=
  if Decimal.isWhole x && x.abs < 1e15 then toString (Decimal.toInt64 x) else Decimal.ofFloat x

/-- The number that a text as a whole is: blanks around it do not count, and
infinities and the like are no numbers. -/
def numericText? (s : String) : Option Float :=
  let body := Chars.trim s.toList
  let unsigned := body.dropWhile fun c => c == '+' || c == '-'
  let startsWell :=
    match unsigned with
    | [] => false
    | c :: _ => c.isDigit || c == '.'
  if startsWell && unsigned.any Char.isDigit then
    (Decimal.float? body).filter Float.isFinite
  else none

/-- The longest start of a text that has the form of a number: an optional
sign, digits and at most one point. -/
def numberPrefix (cs : List Char) : List Char :=
  let (first, rest) :=
    match cs with
    | c :: rest => if c = '+' ∨ c = '-' then ([c], rest) else ([], cs)
    | [] => ([], [])
  let whole := rest.takeWhile Char.isDigit
  match rest.dropWhile Char.isDigit with
  | '.' :: more => first ++ whole ++ '.' :: more.takeWhile Char.isDigit
  | _ => first ++ whole

/-- The number that a text starts with, 0 when there is none. -/
def leadingNumber (s : String) : Float :=
  let start := numberPrefix (Chars.trimStart s.toList)
  if start.any Char.isDigit then
    (Decimal.float? (Chars.dropEndWhile (· == '.') start)).getD 0.0
  else 0.0

/-- The truth of a value: nothing, zero, the empty text and `0` are false. -/
def toBool : Value → Bool
  | null => false
  | bool b => b
  | number x => x != 0.0
  | text s => !(s.isEmpty || s == "0")

/-- The value as a number; a text counts by the number it starts with. -/
def toNumber : Value → Float
  | null => 0.0
  | bool b => if b then 1.0 else 0.0
  | number x => x
  | text s => leadingNumber s

/-- The value as a number, if all of it is one. -/
def numeric? : Value → Option Float
  | number x => some x
  | text s => numericText? s
  | _ => none

/-- The value as text: truth is `1`, falsehood and nothing are empty. -/
def toText : Value → String
  | null => ""
  | bool b => if b then "1" else ""
  | number x => numberText x
  | text s => s

/-- The name of the kind of a value. -/
def kindName : Value → String
  | null => "null"
  | bool _ => "bool"
  | number _ => "number"
  | text _ => "string"

/-- The order of two numbers; none when one of them is not a number. -/
def compareNumbers (x y : Float) : Option Ordering :=
  if x < y then some .lt
  else if x == y then some .eq
  else if y < x then some .gt
  else none

/-- The order of two values. Next to a truth value, and for nothing next to a
number, truths are compared, false first; nothing next to a text counts as the
empty text; two values that are both wholly numbers are compared as numbers;
all else by the order of the texts. -/
def compare (a b : Value) : Option Ordering :=
  let truths := some (Ord.compare a.toBool b.toBool)
  match a, b with
  | bool _, _ | _, bool _ => truths
  | null, null => some .eq
  | null, text s => some (Ord.compare "" s)
  | text s, null => some (Ord.compare s "")
  | null, _ | _, null => truths
  | _, _ =>
    match a.numeric?, b.numeric? with
    | some x, some y => compareNumbers x y
    | _, _ => some (Ord.compare a.toText b.toText)

/-- Equality through the order of values. -/
def equal (a b : Value) : Bool :=
  a.compare b == some .eq

/-- Equality of kind and value. -/
def identical : Value → Value → Bool
  | null, null => true
  | bool a, bool b => a == b
  | number x, number y => x == y
  | text s, text t => s == t
  | _, _ => false

end Value

end Lineage
