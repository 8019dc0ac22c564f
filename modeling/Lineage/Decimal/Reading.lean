/-!
# Reading decimal numbers

A decimal number is a run of digits with at most one point among them and an
optional exponent. It is read to the nearest binary number; one too large to
be represented becomes infinite, one too small becomes zero.
-/

namespace Lineage.Decimal

/-- An unsigned decimal: the digits in front of the point, those behind it,
and the exponent of ten. -/
structure Numeral where
  whole : List Char
  fraction : List Char
  exponent : Int

namespace Numeral

/-- The number `n · 10 ^ e` that a numeral stands for. -/
def parts (x : Numeral) : Nat × Int :=
  (Nat.ofDigitChars 10 (x.whole ++ x.fraction) 0, x.exponent - x.fraction.length)

/-- The order of size at which no double is finite, with room to spare. -/
def bound : Int := 400

/-- The nearest 64-bit number. Numerals far outside its range are decided by
their number of digits and exponent alone. -/
def toFloat (x : Numeral) : Float :=
  let (n, e) := x.parts
  let size : Int := (Nat.toDigits 10 n).length + e
  if n = 0 || size < -bound then 0.0
  else if bound < size then 1.0 / 0.0
  else if e < 0 then Float.ofScientific n true (-e).toNat
  else Float.ofScientific n false e.toNat

/-- The nearest 32-bit number. -/
def toFloat32 (x : Numeral) : Float32 :=
  let (n, e) := x.parts
  let size : Int := (Nat.toDigits 10 n).length + e
  if n = 0 || size < -bound then 0.0
  else if bound < size then 1.0 / 0.0
  else if e < 0 then Float32.ofScientific n true (-e).toNat
  else Float32.ofScientific n false e.toNat

/-- Splits off the digits `digits`, `digits.`, `digits.digits` or `.digits`
that a text starts with. -/
def mantissa? (cs : List Char) : Option (List Char × List Char × List Char) :=
  let whole := cs.takeWhile Char.isDigit
  match cs.dropWhile Char.isDigit with
  | '.' :: rest =>
    let fraction := rest.takeWhile Char.isDigit
    if whole.isEmpty && fraction.isEmpty then none
    else some (whole, fraction, rest.dropWhile Char.isDigit)
  | rest => if whole.isEmpty then none else some (whole, [], rest)

/-- A sign and what follows it. -/
def sign : List Char → Bool × List Char
  | '-' :: rest => (true, rest)
  | '+' :: rest => (false, rest)
  | cs => (false, cs)

/-- The exponent behind an `e`: an optional sign and at least one digit. -/
def exponent? (cs : List Char) : Option (Int × List Char) :=
  let (negative, rest) := sign cs
  let digits := rest.takeWhile Char.isDigit
  if digits.isEmpty then none
  else
    let n : Int := Nat.ofDigitChars 10 digits 0
    some (if negative then -n else n, rest.dropWhile Char.isDigit)

/-- The text of a whole numeral, if it is one. -/
def ofChars? (cs : List Char) : Option Numeral := do
  let (whole, fraction, rest) ← mantissa? cs
  match rest with
  | [] => some ⟨whole, fraction, 0⟩
  | c :: rest =>
    if c = 'e' ∨ c = 'E' then
      match exponent? rest with
      | some (e, []) => some ⟨whole, fraction, e⟩
      | _ => none
    else none

end Numeral

/-- The names that stand for the numbers that are not finite. -/
def special? (cs : List Char) : Option Float :=
  match String.ofList (cs.map Char.toLower) with
  | "inf" | "infinity" => some (1.0 / 0.0)
  | "nan" => some (0.0 / 0.0)
  | _ => none

/-- A 64-bit number with an optional sign. -/
def float? (cs : List Char) : Option Float :=
  let (negative, rest) := Numeral.sign cs
  ((Numeral.ofChars? rest).map Numeral.toFloat).or (special? rest) |>.map
    fun x => if negative then -x else x

/-- A 32-bit number with an optional sign. -/
def float32? (cs : List Char) : Option Float32 :=
  let (negative, rest) := Numeral.sign cs
  ((Numeral.ofChars? rest).map Numeral.toFloat32).or ((special? rest).map Float.toFloat32) |>.map
    fun x => if negative then -x else x

end Lineage.Decimal
