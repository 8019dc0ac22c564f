/-!
# JSON values

The values of the data format, with the members of an object in order. A
number is kept as a whole number, or as the text it is written with when it has
a fraction or an exponent.
-/

namespace Lineage

/-- A JSON value. -/
inductive JsonValue where
  | null
  | bool (b : Bool)
  | integer (n : Int)
  | real (literal : String)
  | string (s : String)
  | array (items : List JsonValue)
  | object (members : List (String × JsonValue))

end Lineage
