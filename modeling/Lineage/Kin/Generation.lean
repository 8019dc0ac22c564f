import Lineage.Kin.Kinship

/-!
# Generations

The generations that the links between the records give to a record, in whatever order the
links are followed. The person itself is generation 1 and every step to a parent, or to a
child, leads to the next one. Where the siblings of ancestors are looked for as well, they
are in the generation of the ancestor. Somebody who is reached along lines of different
length is in several generations.
-/

namespace Lineage

namespace Kin

/-- What steps from a start lead to, by generation. A step aside stays in it. -/
inductive Generation {α : Type} (step aside : α → α → Prop) (start : α) : Nat → α → Prop where
  | start : Generation step aside start 1 start
  | next {n : Nat} {a b : α} (h : Generation step aside start n a) (hstep : step a b) :
      Generation step aside start (n + 1) b
  | aside {n : Nat} {a b : α} (h : Generation step aside start n a) (haside : aside a b) :
      Generation step aside start n b

/-- Whether a number is that of the steps that lead from a start to something, and one. -/
def CountsSteps {α : Type} (step : α → α → Prop) (start : α) (n : Nat) (a : α) : Prop :=
  ∃ k, n = k + 1 ∧ Reached step start k a

end Kin

namespace Store

variable (store : Store)

/-- Whether nobody is an ancestor of itself. -/
def Acyclic : Prop :=
  ∀ (r : Record) (n : Nat), ¬ Kin.Reached store.IsParent r (n + 1) r

/-- Whether a record is a child of a family that a person is a child of. -/
def IsSibling (person sibling : Record) : Prop :=
  ∃ family ∈ store.childFamilies person, sibling ∈ store.children family

/-- The steps that lead from one generation of the relatives to the next. Only ancestors and
descendants are counted. -/
def IsNext : Kin → Record → Record → Prop
  | .directAncestors => store.IsParent
  | .ancestors => store.IsParent
  | .descendants => store.IsChild
  | _ => fun _ _ => False

/-- The steps that stay in a generation of the relatives. -/
def IsAside (kin : Kin) (person sibling : Record) : Prop :=
  kin = .ancestors ∧ store.IsSibling person sibling

/-- Whether a record is in a generation of the relatives of a person. -/
def InGeneration (kin : Kin) (person : Record) : Nat → Record → Prop :=
  Kin.Generation (store.IsNext kin) (store.IsAside kin) person

/-- Whether a record is in a generation behind the first that a limit allows to go on from, and
in another one that has reached the limit. -/
def StraddlesLimit (kin : Kin) (person : Record) (most : Int) (r : Record) : Prop :=
  ∃ k l : Nat, 1 < k ∧ (k : Int) < most ∧ most ≤ l ∧
    store.InGeneration kin person k r ∧ store.InGeneration kin person l r

end Store

end Lineage
