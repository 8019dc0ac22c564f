import Lineage.Formula.Substitution

/-!
# Attributes of a template element

The attributes in the order in which they are written, each name once.
-/

namespace Lineage

/-- Attributes by name. -/
structure Attributes where
  entries : List (String × String) := []
deriving DecidableEq, Repr

namespace Attributes

/-- The attributes with the given entries; a name that comes again replaces
the value and keeps its place. -/
def ofList (entries : List (String × String)) : Attributes :=
  ⟨entries.foldl (fun done (name, value) => Scope.put name value done) []⟩

/-- The value of an attribute. -/
def get? (attrs : Attributes) (name : String) : Option String :=
  attrs.entries.lookup name

/-- The value of an attribute, or a default when it is missing. -/
def getD (attrs : Attributes) (name default : String) : String :=
  (attrs.get? name).getD default

/-- The value of an attribute that is present and not empty. -/
def nonEmpty? (attrs : Attributes) (name : String) : Option String :=
  (attrs.get? name).filter fun value => !value.isEmpty

/-- A value that consists of a reference to an existing variable becomes the
value of the variable; any other value stays. -/
def resolveValue (scope : Scope) (value : String) : String :=
  ((Substitution.onlyVariable? value).bind scope.get?).getD value

/-- The attributes with the values of variables in them. -/
def resolve (scope : Scope) (attrs : Attributes) : Attributes :=
  ⟨attrs.entries.map fun (name, value) => (name, resolveValue scope value)⟩

end Attributes

end Lineage
