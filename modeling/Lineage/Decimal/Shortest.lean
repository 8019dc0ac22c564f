import Lineage.Decimal.Binary

/-!
# The shortest decimal of a binary number

A number is written with the fewest digits that read back as the same number,
and among those with the digits nearest to it. The numbers that read back as
`x` are those between the midpoints to the neighbours of `x`; the midpoints
themselves count when the mantissa of `x` is even. All comparisons are made in
exact arithmetic.
-/

namespace Lineage.Decimal

/-- A decimal number `digits · 10 ^ exponent`. -/
structure Digits where
  digits : Nat
  exponent : Int
deriving DecidableEq, Repr

/-- Leaves off the zeros at the end; `fuel` bounds their number. -/
def Digits.strip : Nat → Digits → Digits
  | 0, d => d
  | fuel + 1, d =>
    if d.digits ≠ 0 ∧ d.digits % 10 = 0 then strip fuel ⟨d.digits / 10, d.exponent + 1⟩ else d

/-- The number of decimal digits in front of the point of `m · 2 ^ e`; zero or
less when the number is smaller than one. -/
def magnitude (m : Nat) (e : Int) : Int :=
  let scaled := m * Nat.pow 10 400 * Nat.pow 2 e.toNat / Nat.pow 2 (-e).toNat
  (Nat.toDigits 10 scaled).length - 400

/-- The multiple of `10 ^ place` that is nearest to `m · 2 ^ e` among its two
neighbours on that grid which read back as it; of two equally near ones the
upper. -/
def onGrid? (m : Nat) (e : Int) (narrowBelow : Bool) (place : Int) : Option Digits :=
  let up := Nat.pow 2 (e - 2).toNat * Nat.pow 10 (-place).toNat
  let down := Nat.pow 2 (2 - e).toNat * Nat.pow 10 place.toNat
  let value := 4 * m * up
  let low := (if narrowBelow then 4 * m - 1 else 4 * m - 2) * up
  let high := (4 * m + 2) * up
  let readsBack (c : Nat) : Bool :=
    if m % 2 = 0 then low ≤ c * down && c * down ≤ high
    else low < c * down && c * down < high
  let floor := value / down
  let lower := readsBack floor
  let upper := readsBack (floor + 1)
  if lower && (!upper || value - floor * down < (floor + 1) * down - value) then
    some ⟨floor, place⟩
  else if upper then some ⟨floor + 1, place⟩
  else none

/-- The fewest digits that read back as `m · 2 ^ e`. -/
def shortest (m : Nat) (e : Int) (narrowBelow : Bool) : Digits :=
  let k := magnitude m e
  match (List.range 17).findSome? fun (n : Nat) => onGrid? m e narrowBelow (k - 1 - n) with
  | some d => d.strip 20
  | none => ⟨0, 0⟩

/-- The digits of a decimal in positional notation, with a point only where
there is a fraction. -/
def Digits.plain (d : Digits) : List Char :=
  let ds := Nat.toDigits 10 d.digits
  let shift := (-d.exponent).toNat
  if 0 ≤ d.exponent then
    if d.digits = 0 then ['0'] else ds ++ List.replicate d.exponent.toNat '0'
  else if shift < ds.length then ds.take (ds.length - shift) ++ '.' :: ds.drop (ds.length - shift)
  else '0' :: '.' :: List.replicate (shift - ds.length) '0' ++ ds

/-- The text of a number in positional notation, without an exponent however
large or small it is. -/
def Binary.plain : Binary → String
  | notANumber => "NaN"
  | infinite negative => if negative then "-inf" else "inf"
  | finite negative m e narrow =>
    let digits := if m = 0 then ['0'] else (shortest m e narrow).plain
    .ofList (if negative then '-' :: digits else digits)

/-- The shortest text of a 64-bit number. -/
def ofFloat (x : Float) : String :=
  (Binary.ofFloat x).plain

/-- The shortest text of a 32-bit number. -/
def ofFloat32 (x : Float32) : String :=
  (Binary.ofFloat32 x).plain

/-- The quotient rounded to the nearest whole number, a tie to the even
one. -/
def roundDiv (num den : Nat) : Nat :=
  let q := num / den
  let twice := 2 * (num % den)
  if twice < den || (twice == den && q % 2 == 0) then q else q + 1

/-- The text of a number with exactly `places` digits behind the point. -/
def fixed (places : Nat) (x : Float) : String :=
  match Binary.ofFloat x with
  | .finite negative m e _ =>
    let scaled := roundDiv (m * Nat.pow 2 e.toNat * Nat.pow 10 places) (Nat.pow 2 (-e).toNat)
    let ds := Nat.toDigits 10 scaled
    let ds := List.replicate (places + 1 - ds.length) '0' ++ ds
    let point := ds.length - places
    let text := ds.take point ++ '.' :: ds.drop point
    .ofList (if negative then '-' :: text else text)
  | b => b.plain

end Lineage.Decimal
