/-!
# Binary floating-point numbers, taken apart

A binary number of either width is split into its sign, its mantissa and the
exponent of two, so that all further work on its digits is exact arithmetic on
natural numbers.
-/

namespace Lineage.Decimal

/-- The layout of a binary format: the digits of its mantissa, the leading one
included, and the bits of its exponent. -/
structure Layout where
  precision : Nat
  exponentBits : Nat

/-- The 64-bit format. -/
def Layout.double : Layout := ⟨53, 11⟩

/-- The 32-bit format. -/
def Layout.single : Layout := ⟨24, 8⟩

/-- What the bits of a number say. A finite number is
`± mantissa · 2 ^ exponent`; it is `narrowBelow` when the next number toward
zero is only half as far away as the next one away from zero. -/
inductive Binary where
  | notANumber
  | infinite (negative : Bool)
  | finite (negative : Bool) (mantissa : Nat) (exponent : Int) (narrowBelow : Bool)

namespace Binary

/-- Takes the bits of a number apart. -/
def ofBits (layout : Layout) (bits : Nat) : Binary :=
  let stored := layout.precision - 1
  let fraction := bits % Nat.pow 2 stored
  let field := bits / Nat.pow 2 stored % Nat.pow 2 layout.exponentBits
  let negative := bits / Nat.pow 2 (stored + layout.exponentBits) % 2 == 1
  let least : Int := 2 - Nat.pow 2 (layout.exponentBits - 1) - stored
  if field = Nat.pow 2 layout.exponentBits - 1 then
    if fraction = 0 then infinite negative else notANumber
  else if field = 0 then finite negative fraction least false
  else
    finite negative (Nat.pow 2 stored + fraction) (field - 1 + least) (fraction == 0 && field != 1)

/-- Takes a 64-bit number apart. -/
def ofFloat (x : Float) : Binary :=
  ofBits .double x.toBits.toNat

/-- Takes a 32-bit number apart. -/
def ofFloat32 (x : Float32) : Binary :=
  ofBits .single x.toBits.toNat

/-- The integral part of a finite number, toward zero. -/
def wholePart? : Binary → Option Int
  | finite negative mantissa exponent _ =>
    let size := mantissa * Nat.pow 2 exponent.toNat / Nat.pow 2 (-exponent).toNat
    some (if negative then -(size : Int) else size)
  | _ => none

end Binary

/-- The greatest whole number that 64 bits hold. -/
def maxInt64 : Int :=
  9223372036854775807

/-- The whole number of 64 bits that is nearest to a whole number: beyond the
bounds it is the bound. -/
def within64 (n : Int) : Int :=
  max (-maxInt64 - 1) (min maxInt64 n)

/-- The nearest whole number toward zero that 64 bits hold; numbers beyond the
bounds go to the bound, and what is not a number to 0. -/
def toInt64 (x : Float) : Int :=
  match Binary.ofFloat x with
  | .notANumber => 0
  | .infinite true => -maxInt64 - 1
  | .infinite false => maxInt64
  | b@(.finite ..) => within64 (b.wholePart?.getD 0)

/-- The float of a whole number, with the given sign when it is zero. -/
def signed (negative : Bool) (n : Int) : Float :=
  if n = 0 then (if negative then -0.0 else 0.0) else Float.ofInt n

/-- The number without its fraction; the sign of a zero is kept. -/
def truncate (x : Float) : Float :=
  match Binary.ofFloat x with
  | b@(.finite negative ..) => signed negative (b.wholePart?.getD 0)
  | _ => x

/-- The remainder of two whole numbers, with the sign of the first. -/
def remainder (x y : Float) : Float :=
  match Binary.ofFloat x, Binary.ofFloat y with
  | .notANumber, _ | .infinite _, _ | _, .notANumber => 0.0 / 0.0
  | .finite .., .infinite _ => x
  | a@(.finite negative ..), b@(.finite ..) =>
    let divisor := b.wholePart?.getD 0
    if divisor = 0 then 0.0 / 0.0
    else signed negative (Int.tmod (a.wholePart?.getD 0) divisor)

/-- Whether a number is finite and without fraction. -/
def isWhole (x : Float) : Bool :=
  x.isFinite && truncate x == x

end Lineage.Decimal
