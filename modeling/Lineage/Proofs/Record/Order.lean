import Mathlib.Data.Prod.Lex
import Lineage.Proofs.Record.Facts

/-!
# Facts in the order of their dates

The dated facts of a list are taken out, sorted by where their ranges start and then by where
they end, and put back into the places where dated facts stood. So no other fact moves, and the
dated ones, read on their own, are what the sort gives.

> `Fact.sortByDate_sound`: nothing is lost, undated facts keep their places, dated facts are in
> order, and those of the same range keep the order that they had.
-/

namespace Lineage

namespace Order

theorem lexLess_iff {a b : Int × Int} : lexLess a b = true ↔ toLex a < toLex b := by
  simp [lexLess, Prod.Lex.toLex_lt_toLex]

end Order

namespace Fact

/-! ## Places -/

/-- Dated facts that are put into the places of the dated ones are what is dated then. -/
theorem filter_refill {facts dated : List Fact}
    (hlength : dated.length = (facts.filter (·.date.isValid)).length)
    (hdated : ∀ fact ∈ dated, fact.date.isValid = true) :
    (refill facts dated).filter (·.date.isValid) = dated := by
  induction facts generalizing dated with
  | nil => exact (List.length_eq_zero_iff.mp hlength).symm
  | cons fact rest ih =>
    unfold refill
    split
    next hvalid =>
      rw [List.filter_cons_of_pos (by simpa using hvalid)] at hlength
      cases dated with
      | nil => cases hlength
      | cons next more =>
        rw [List.forall_mem_cons] at hdated
        dsimp only
        rw [List.filter_cons_of_pos (by simpa using hdated.1),
          ih (Nat.succ.inj hlength) hdated.2]
    next hinvalid =>
      rw [List.filter_cons_of_neg (by simpa using hinvalid)] at hlength
      rw [List.filter_cons_of_neg (by simpa using hinvalid), ih hlength hdated]

/-- **A fact without a valid date keeps its place**, whatever is put into the others. -/
theorem getElem?_refill {facts : List Fact} {fact : Fact} {i : Nat} (dated : List Fact)
    (hplace : facts[i]? = some fact) (hinvalid : fact.date.isValid = false) :
    (refill facts dated)[i]? = some fact := by
  induction facts generalizing dated i with
  | nil => cases hplace
  | cons first rest ih =>
    unfold refill
    cases i with
    | zero =>
      rw [List.getElem?_cons_zero, Option.some_inj] at hplace
      subst hplace
      rw [hinvalid]
      rfl
    | succ i =>
      rw [List.getElem?_cons_succ] at hplace
      split
      · cases dated with
        | nil => exact hplace
        | cons next more => exact ih more hplace
      · exact ih dated hplace

/-! ## Order -/

/-- The dated facts of a sorted list, read on their own. -/
theorem filter_sortByDate (facts : List Fact) :
    (sortByDate facts).filter (·.date.isValid) =
      Order.sortBy (fun later earlier => Order.lexLess later.date.range earlier.date.range)
        (facts.filter (·.date.isValid)) := by
  have hperm := Order.perm_sortBy
    (fun later earlier : Fact => Order.lexLess later.date.range earlier.date.range)
    (facts.filter (·.date.isValid))
  refine filter_refill hperm.length_eq fun fact hfact => ?_
  exact (List.mem_filter.mp (hperm.mem_iff.mp hfact)).2

/-- **What sorting by date does.** It only changes the order; a fact without a valid date stays
where it is; the facts with one come in the order of their ranges, by the first day and then by
the last; and those of the same range keep their order. -/
theorem sortByDate_sound (facts : List Fact) :
    (sortByDate facts).Perm facts ∧
    (∀ (i : Nat) (fact : Fact), facts[i]? = some fact → fact.date.isValid = false →
      (sortByDate facts)[i]? = some fact) ∧
    ((sortByDate facts).filter (·.date.isValid)).Pairwise
      (fun earlier later => toLex earlier.date.range ≤ toLex later.date.range) ∧
    ∀ range : Int × Int,
      (sortByDate facts).filter (fun fact => fact.date.isValid && fact.date.range == range) =
        facts.filter fun fact => fact.date.isValid && fact.date.range == range := by
  refine ⟨perm_sortByDate facts, fun i fact => getElem?_refill _, ?_, fun range => ?_⟩
  · rw [filter_sortByDate]
    exact Order.pairwise_le_sortBy (fun fact : Fact => toLex fact.date.range)
      (fun _ _ => Order.lexLess_iff) _
  · have hequal (a b : Fact) (ha : (a.date.range == range) = true)
        (hb : (b.date.range == range) = true) :
        Order.lexLess a.date.range b.date.range = false := by
      rw [eq_of_beq ha, eq_of_beq hb, ← Bool.not_eq_true, Order.lexLess_iff]
      exact lt_irrefl _
    have hsame := Order.filter_sortBy hequal (facts.filter (·.date.isValid))
    rw [← filter_sortByDate, List.filter_filter, List.filter_filter] at hsame
    simpa only [Bool.and_comm] using hsame

end Fact

end Lineage
