import Mathlib.Order.Lattice.Nat
import Lineage.Kin.Relatives

/-!
# Kinship

Who the relatives of a person are, said by the links between the records alone: steps
from a person to its parents or to its children, the people that a number of such
steps leads to, and how many steps they are away. The links may lead round in cycles.
-/

namespace Lineage

namespace Store

variable (store : Store)

/-- Whether a record is the husband or the wife of a family that a person is a child of. -/
def IsParent (person parent : Record) : Prop :=
  ∃ family ∈ store.childFamilies person,
    store.husband? family = some parent ∨ store.wife? family = some parent

/-- Whether a record is a child of a family that a person is a spouse of. -/
def IsChild (person child : Record) : Prop :=
  ∃ family ∈ store.spouseFamilies person, child ∈ store.children family

/-- The records of all relatives of a person, in the order in which they are found. -/
def relativeRecords (anchor : String) (kin : Kin) : List Record :=
  (store.relatives anchor kin none).map Relative.record

end Store

namespace Kin

/-- What a number of steps leads to. -/
inductive Reached {α : Type} (step : α → α → Prop) (start : α) : Nat → α → Prop where
  | start : Reached step start 0 start
  | next {n : Nat} {a b : α} (h : Reached step start n a) (hstep : step a b) :
      Reached step start (n + 1) b

/-- The least number of steps that leads to something, if any does. -/
noncomputable def distance {α : Type} (step : α → α → Prop) (start a : α) : Nat :=
  sInf {n | Reached step start n a}

section

variable {α : Type} {step : α → α → Prop} {start a b : α}

theorem distance_le {n : Nat} (h : Reached step start n a) : distance step start a ≤ n :=
  Nat.sInf_le h

/-- The least number of steps leads there. -/
theorem reached_distance (h : ∃ n, Reached step start n a) :
    Reached step start (distance step start a) a :=
  Nat.sInf_mem h

/-- Only the start is no step away. -/
theorem Reached.eq_start (h : Reached step start 0 a) : a = start := by
  cases h
  rfl

/-- One step leads at most one step further away. -/
theorem distance_le_succ (h : ∃ n, Reached step start n a) (hstep : step a b) :
    distance step start b ≤ distance step start a + 1 :=
  distance_le ((reached_distance h).next hstep)

end

end Kin

end Lineage
