import Lineage.Formula.Scope
import Lineage.Text.Property

/-!
# References to variables

Where a text refers to variables, by the places of the dollar signs, and what becomes
of the text when something is written for each reference. The text is read from left
to right, and what is written for a reference is not read.
-/

namespace Lineage.Substitution

/-- Whether a text refers to a variable behind `before`: a dollar sign stands there, with
the longest run of word characters behind it for a name, which is not empty. -/
structure IsReference (cs before name behind : List Char) : Prop where
  text_eq : cs = before ++ '$' :: (name ++ behind)
  nonempty : name ≠ []
  word : ∀ c ∈ name, Chars.isWord c = true
  ends : ∀ c, behind.head? = some c → Chars.isWord c = false

/-- Whether all variables that a text refers to have values. -/
def AllKnown (scope : Scope) (cs : List Char) : Prop :=
  ∀ before name behind, IsReference cs before name behind →
    scope.contains (.ofList name) = true

/-- Whether the leftmost reference to a variable without a value is one by this name. -/
def IsFirstUnknown (scope : Scope) (cs name : List Char) : Prop :=
  ∃ before behind, IsReference cs before name behind ∧
    scope.contains (.ofList name) = false ∧
    ∀ before' name' behind', IsReference cs before' name' behind' →
      before'.length < before.length → scope.contains (.ofList name') = true

/-- What is written for a variable, nothing if it has no value. -/
def valueOf (scope : Scope) (name : String) : String :=
  (scope.get? name).getD ""

/-- A text with `value` written for each reference. A dollar sign without a word character
behind it stands for itself. -/
inductive Expands (value : String → String) : List Char → List Char → Prop
  | nil : Expands value [] []
  | char {c : Char} {rest out : List Char}
    (plain : c = '$' → ∀ d, rest.head? = some d → Chars.isWord d = false)
    (more : Expands value rest out) : Expands value (c :: rest) (c :: out)
  | reference {cs name behind out : List Char} (first : IsReference cs [] name behind)
    (more : Expands value behind out) :
    Expands value cs ((value (.ofList name)).toList ++ out)

end Lineage.Substitution
