import Lineage.Unicode.Age
import Lineage.Unicode.Boundary

/-!
# Sets of characters by name

A set of characters is named by a property that characters have or have not, a
category or a script, or by a property together with one of its values. Names
are compared without regard to case, blanks, hyphens and underscores, and an
`is` in front of a name does not count.
-/

namespace Lineage.Unicode

/-- Whether a name starts with `is`. -/
def startsWithIs : List Char → Bool
  | a :: b :: _ => (a == 'i' || a == 'I') && (b == 's' || b == 'S')
  | _ => false

/-- A name in the form in which names are compared. Characters beyond ASCII
are dropped; `isc` is no `c` with an `is` in front. -/
def looseName (name : List Char) : String :=
  let rest := if startsWithIs name then name.drop 2 else name
  let counts (c : Char) := c.toNat < 128 && c != ' ' && c != '_' && c != '-'
  let kept := (rest.filter counts).map Char.toLower
  .ofList (if startsWithIs name && kept == ['c'] then ['i', 's', 'c'] else kept)

/-- Whether a name belongs to a property of another kind (script, case folding
or lower case) as well as to a category. On its own it means the category. -/
def isShared (name : String) : Bool :=
  name == "cf" || name == "sc" || name == "lc"

/-- The category with a name, or one of the sets that are named like one. -/
def categoryNamed? (name : String) : Option CharSet :=
  match name with
  | "any" => some .all
  | "assigned" => some (Category.set .unassigned).complement
  | "ascii" => some (.range 0 0x7F)
  | _ => Category.named? name

/-- The set with a name. -/
def named? (name : List Char) : Option CharSet :=
  let name := looseName name
  let property := if isShared name then none else Property.named? name
  (property.or (categoryNamed? name)).or ((Script.find? name).map Script.set)

/-- The set of the characters for which a property has a value. -/
def valued? (property value : List Char) : Option CharSet :=
  let value := looseName value
  match looseName property with
  | "generalcategory" | "gc" => categoryNamed? value
  | "script" | "sc" => (Script.find? value).map Script.set
  | "scriptextensions" | "scx" => (Script.find? value).map Script.usedWith
  | "age" => Age.set? value
  | "graphemeclusterbreak" | "gcb" => Boundary.named? Boundary.graphemeClasses value
  | "wordbreak" | "wb" => Boundary.named? Boundary.wordClasses value
  | "sentencebreak" | "sb" => Boundary.named? Boundary.sentenceClasses value
  | _ => none

end Lineage.Unicode
