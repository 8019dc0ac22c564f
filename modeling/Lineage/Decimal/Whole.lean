/-!
# Whole numbers in text

Reading natural numbers and signed whole numbers from their decimal digits.
Only the digits 0 to 9 count, and a number outside the stated bounds is no
number at all.
-/

namespace Lineage.Decimal

/-- The number written by a non-empty run of digits. -/
def ofDigits? (cs : List Char) : Option Nat :=
  if !cs.isEmpty && cs.all Char.isDigit then some (Nat.ofDigitChars 10 cs 0) else none

/-- A natural number of at most `bits` bits; a plus sign may come first. -/
def natural? (bits : Nat) (cs : List Char) : Option Nat :=
  let digits :=
    match cs with
    | '+' :: rest => rest
    | _ => cs
  (ofDigits? digits).filter (· < Nat.pow 2 bits)

/-- A whole number that fits `bits` bits in two's complement, with an
optional sign. -/
def integer? (bits : Nat) (cs : List Char) : Option Int :=
  match cs with
  | '-' :: rest => ((ofDigits? rest).filter (· ≤ Nat.pow 2 (bits - 1))).map fun n => -(n : Int)
  | _ => (natural? (bits - 1) cs).map Int.ofNat

/-- The decimal digits of a number, with zeros in front up to the given
width. -/
def padded (width n : Nat) : String :=
  let digits := Nat.toDigits 10 n
  .ofList (List.replicate (width - digits.length) '0' ++ digits)

end Lineage.Decimal
