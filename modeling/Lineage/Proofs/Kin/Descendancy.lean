import Lineage.Kin.Descendancy
import Lineage.Proofs.Kin.Relatives

/-!
# The walk down and its recursion

Carrying out a list of tasks is visiting person after person: a person that is next, the
families of a person and the children of a family are each done with, and all they lead to,
before the tasks behind them. What is behind stays as it is, so each of the three is an
equation with any tasks behind.

> `Descendancy.run_eq_visit`: from whatever was found and visited before, the list of tasks
> leaves exactly what the recursion leaves.
-/

namespace Lineage

namespace Descendancy

variable (store : Store) (limit : Option Int) (withSpouses : Bool)

mutual

/-- A person that is next is visited, and then the other tasks follow. -/
theorem run_person (r : Record) (rest : List Descent) (found : List Relative)
    (visited : List String) :
    Descent.run store limit withSpouses (.person r :: rest) found visited =
      Descent.run store limit withSpouses rest
        (visit store limit withSpouses r found visited).found
        (visit store limit withSpouses r found visited).visited := by
  rw [Descent.run, visit]
  exact run_families r.xref _ (store.spouseFamilies r) rest _ visited
termination_by (store.unvisited visited, 2, 0)
decreasing_by exact Prod.Lex.right _ (Prod.Lex.left _ _ Nat.one_lt_two)

/-- The families of a person are gone through, and then the other tasks follow. -/
theorem run_families (person : String) (generation : Int) (families : List Record)
    (rest : List Descent) (found : List Relative) (visited : List String) :
    Descent.run store limit withSpouses
        (families.map (Descent.family person generation) ++ rest) found visited =
      Descent.run store limit withSpouses rest
        (visitFamilies store limit withSpouses person generation families found visited).found
        (visitFamilies store limit withSpouses person generation families found visited).visited := by
  cases families with
  | nil => rw [visitFamilies]; rfl
  | cons family families =>
    rw [List.map_cons, List.cons_append, Descent.run, visitFamilies]
    by_cases hlimit : withinLimit limit generation = true
    · rw [if_pos hlimit, if_pos hlimit]
      have hlisted : ∀ c ∈ store.children family, store.Listed c :=
        fun _ => Store.listed_of_mem_linked
      exact (run_children (store.children family) _ hlisted _ _ visited).trans
        (run_families person generation families rest _ _)
    · rw [if_neg hlimit, if_neg hlimit]
      exact run_families person generation families rest _ visited
termination_by (store.unvisited visited, 1, families.length)
decreasing_by
  · exact Prod.Lex.right _ (Prod.Lex.left _ _ Nat.zero_lt_one)
  · exact Prod.Lex.right' _ (Walked.unvisited_le _) (Prod.Lex.right _ (Nat.lt_succ_self _))
  · exact Prod.Lex.right _ (Prod.Lex.right _ (Nat.lt_succ_self _))

/-- The children of a family are visited, and then the other tasks follow. -/
theorem run_children (children : List Record) (known : ∀ c ∈ children, c ∈ store.records)
    (hlisted : ∀ c ∈ children, store.Listed c) (rest : List Descent) (found : List Relative)
    (visited : List String) :
    Descent.run store limit withSpouses
        (children.map (fun c => Descent.child c.xref) ++ rest) found visited =
      Descent.run store limit withSpouses rest
        (visitChildren store limit withSpouses children known found visited).found
        (visitChildren store limit withSpouses children known found visited).visited := by
  match children, known, hlisted with
  | [], _, _ => rw [visitChildren]; rfl
  | child :: children, known, hlisted =>
    rw [List.forall_mem_cons] at hlisted
    have hknown : store.record? child.xref = some child := hlisted.1
    rw [List.map_cons, List.cons_append, Descent.run, visitChildren]
    split
    · next hnone =>
      rw [hknown] at hnone
      cases hnone
    · next record hrecord =>
      obtain rfl : child = record := Option.some_inj.mp (hknown.symm.trans hrecord)
      by_cases hmet : visited.contains child.xref = true
      · rw [if_pos hmet, dif_pos hmet]
        exact run_children children _ hlisted.2 rest found visited
      · have hfewer : store.unvisited (child.xref :: visited) < store.unvisited visited :=
          Store.unvisited_cons_lt (Store.mem_of_record? hknown) (Bool.eq_false_of_not_eq_true hmet)
        rw [if_neg hmet, dif_neg hmet]
        exact (run_person child _ found (child.xref :: visited)).trans
          (run_children children _ hlisted.2 rest _ _)
termination_by (store.unvisited visited, 0, children.length)
decreasing_by
  · exact Prod.Lex.right _ (Prod.Lex.right _ (Nat.lt_succ_self _))
  · exact Prod.Lex.left _ _ hfewer
  · exact Prod.Lex.left _ _ (Nat.lt_of_le_of_lt (Walked.unvisited_le _) hfewer)

end

/-- **Carrying out the tasks is visiting the person.** From whatever was found and visited before,
within any limit and with spouses or without, the list of tasks that starts with a person leaves
what the recursion leaves: the same relatives in the same order with the same generations, and
the same people visited. The links may be any, also circular. -/
theorem run_eq_visit (root : Record) (found : List Relative) (visited : List String) :
    Descent.run store limit withSpouses [.person root] found visited =
      ((visit store limit withSpouses root found visited).found,
        (visit store limit withSpouses root found visited).visited) := by
  rw [run_person, Descent.run]

end Descendancy

end Lineage
