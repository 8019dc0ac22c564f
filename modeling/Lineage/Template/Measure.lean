import Lineage.Decimal.Binary
import Lineage.Decimal.Reading
import Lineage.Template.Attributes

/-!
# Numbers and switches in attributes

An attribute is read as a number by the number that its value starts with, so
that a unit may follow; without one it is zero. As a switch it is off when it
is empty or `0`.
-/

namespace Lineage

/-- The number that a text starts with, blanks aside: a sign, digits, and at
most one point among them. Without a digit it is zero. -/
def leadingNumber (value : String) : Float :=
  let cs := Chars.trim value.toList
  let (sign, rest) :=
    match cs with
    | c :: rest => if c = '+' ∨ c = '-' then ([c], rest) else ([], cs)
    | [] => ([], [])
  let whole := rest.takeWhile Char.isDigit
  let fraction :=
    match rest.drop whole.length with
    | '.' :: rest => '.' :: rest.takeWhile Char.isDigit
    | _ => []
  (Decimal.float? (sign ++ whole ++ fraction)).getD 0.0

/-- A whole number in the range of 32 bits: the nearest one within it. -/
def within32 (n : Int) : Int :=
  max (-2147483648) (min 2147483647 n)

namespace Attributes

/-- An attribute as a length. -/
def length (attrs : Attributes) (name : String) (default : Float32) : Float32 :=
  match attrs.get? name with
  | some value => (leadingNumber value).toFloat32
  | none => default

/-- An attribute as a whole number, without its fraction. -/
def whole (attrs : Attributes) (name : String) (default : Int) : Int :=
  match attrs.get? name with
  | some value => within32 (Decimal.toInt64 (leadingNumber value))
  | none => default

/-- An attribute as a switch. -/
def switch (attrs : Attributes) (name : String) (default : Bool) : Bool :=
  match attrs.get? name with
  | some value => value != "" && value != "0"
  | none => default

end Attributes

end Lineage
