import Mathlib.Order.Lattice
import Mathlib.Data.List.Induction
import Mathlib.Data.List.Perm.Basic
import Lineage.Order.Insertion

/-!
# What insertion sort gives

The sort only exchanges neighbours, so nothing is lost whatever the comparison
(`perm_sortBy`). Of the comparison the other properties need no more than they say:

> `filter_sortBy`: elements none of which is less than another one keep their order.
> `pairwise_sortBy`: no element is less than one in front of it, if that can be chained.
> `sortBy_eq_of_perm`: lists of the same elements with different keys are sorted to the same list.
> `sortBy_eq_append`: elements that are less than all others, and than nothing else, come
> first, although the comparison may not be an order.

The sorted part is written backwards, last element first, because insertion works from its end.
-/

namespace Lineage.Order

variable {α : Type} (less : α → α → Bool)

/-! ## Nothing is lost -/

theorem perm_insertBack (x : α) (ys : List α) : (insertBack less x ys).Perm (x :: ys) := by
  induction ys with
  | nil => exact .refl _
  | cons y rest ih =>
    rw [insertBack]
    split
    · exact (ih.cons y).trans (.swap ..)
    · exact .refl _

/-- What has been sorted so far, together with what remains, stays the same. -/
theorem perm_foldl_insertBack (xs sorted : List α) :
    (xs.foldl (fun sorted x => insertBack less x sorted) sorted).Perm (xs ++ sorted) := by
  induction xs generalizing sorted with
  | nil => exact .refl _
  | cons x rest ih =>
    rw [List.foldl_cons]
    exact ((ih _).trans ((perm_insertBack less x sorted).append_left rest)).trans List.perm_middle

/-- Insertion sort only changes the order, whatever the comparison. -/
theorem perm_sortBy (xs : List α) : (sortBy less xs).Perm xs := by
  have hfold := perm_foldl_insertBack less xs []
  rw [List.append_nil] at hfold
  exact (List.reverse_perm _).trans hfold

variable {less}

/-! ## One more element -/

theorem sortBy_concat (xs : List α) (x : α) :
    sortBy less (xs ++ [x]) = (insertBack less x (sortBy less xs).reverse).reverse := by
  rw [sortBy, sortBy, List.foldl_concat, List.reverse_reverse]

/-! ## Stability -/

/-- Whoever passes only others stays behind those that came before. -/
theorem filter_insertBack {p : α → Bool} (h : ∀ a b, p a = true → p b = true → less a b = false)
    (x : α) (ys : List α) :
    (insertBack less x ys).filter p = [x].filter p ++ ys.filter p := by
  induction ys with
  | nil => exact (List.append_nil _).symm
  | cons y rest ih =>
    rw [insertBack]
    split
    next hless =>
      rw [List.filter_cons, ih]
      by_cases hx : p x = true
      · have hy : ¬ p y = true := fun hy => by
          rw [h x y hx hy] at hless
          cases hless
        rw [List.filter_cons_of_neg hy, if_neg hy]
      · rw [List.filter_cons_of_neg hx, List.filter_nil, List.nil_append, List.nil_append,
          List.filter_cons]
    next => exact List.filter_append [x] (y :: rest)

/-- **Elements none of which is less than another one keep their order.** -/
theorem filter_sortBy {p : α → Bool} (h : ∀ a b, p a = true → p b = true → less a b = false)
    (xs : List α) : (sortBy less xs).filter p = xs.filter p := by
  induction xs using List.reverseRecOn with
  | nil => rfl
  | append_singleton xs x ih =>
    rw [sortBy_concat, List.filter_reverse, filter_insertBack h, List.filter_reverse, ih,
      List.reverse_append, List.reverse_reverse, List.filter_append]
    by_cases hx : p x = true
    · rw [List.filter_cons_of_pos hx]
      rfl
    · rw [List.filter_cons_of_neg hx]
      rfl

/-! ## Order -/

/-- Inserting keeps a list sorted, last element first. -/
theorem pairwise_insertBack (hasymm : ∀ a b, less a b = true → less b a = false)
    (htrans : ∀ a b c, less c b = false → less b a = false → less c a = false) {x : α}
    {ys : List α} (h : ys.Pairwise fun later earlier => less later earlier = false) :
    (insertBack less x ys).Pairwise fun later earlier => less later earlier = false := by
  induction ys with
  | nil => exact List.pairwise_singleton _ x
  | cons y rest ih =>
    obtain ⟨hy, hrest⟩ := List.pairwise_cons.mp h
    rw [insertBack]
    split
    next hless =>
      refine List.pairwise_cons.mpr ⟨fun z hz => ?_, ih hrest⟩
      rcases List.mem_cons.mp ((perm_insertBack less x rest).mem_iff.mp hz) with rfl | hz
      · exact hasymm _ _ hless
      · exact hy z hz
    next hless =>
      rw [Bool.not_eq_true] at hless
      refine List.pairwise_cons.mpr ⟨fun z hz => ?_, h⟩
      rcases List.mem_cons.mp hz with rfl | hz
      · exact hless
      · exact htrans _ _ _ hless (hy z hz)

/-- **No element is less than one in front of it**, where a comparison cannot go both ways and
not being less can be chained. -/
theorem pairwise_sortBy (hasymm : ∀ a b, less a b = true → less b a = false)
    (htrans : ∀ a b c, less c b = false → less b a = false → less c a = false) (xs : List α) :
    (sortBy less xs).Pairwise fun earlier later => less later earlier = false := by
  induction xs using List.reverseRecOn with
  | nil => exact .nil
  | append_singleton xs x ih =>
    rw [sortBy_concat, List.pairwise_reverse]
    exact pairwise_insertBack hasymm htrans (List.pairwise_reverse.mpr ih)

/-! ## Keys -/

section

variable {κ : Type} [LinearOrder κ] (key : α → κ)

/-- **The keys come in their order**, where the lesser element is the one with the smaller key. -/
theorem pairwise_le_sortBy (h : ∀ a b, less a b = true ↔ key a < key b) (xs : List α) :
    (sortBy less xs).Pairwise fun earlier later => key earlier ≤ key later := by
  have hnot (a b : α) : less a b = false ↔ key b ≤ key a := by
    rw [← not_lt, ← h, Bool.not_eq_true]
  refine (pairwise_sortBy (fun a b hab => ?_) (fun a b c hcb hba => ?_) xs).imp (hnot _ _).mp
  · exact (hnot b a).mpr ((h a b).mp hab).le
  · exact (hnot c a).mpr (((hnot b a).mp hba).trans ((hnot c b).mp hcb))

/-- Keys that are all different come in strict order. -/
theorem pairwise_lt_sortBy (h : ∀ a b, less a b = true ↔ key a < key b) {xs : List α}
    (hkeys : (xs.map key).Nodup) :
    (sortBy less xs).Pairwise fun earlier later => key earlier < key later := by
  have hdifferent : (sortBy less xs).Pairwise fun earlier later => key earlier ≠ key later :=
    List.pairwise_map.mp (((perm_sortBy less xs).map key).nodup_iff.mpr hkeys)
  exact (pairwise_le_sortBy key h xs).and hdifferent |>.imp fun hboth => lt_of_le_of_ne hboth.1 hboth.2

/-- **Where the keys are all different, the order that a list had before is forgotten.** -/
theorem sortBy_eq_of_perm (h : ∀ a b, less a b = true ↔ key a < key b) {xs ys : List α}
    (hkeys : (xs.map key).Nodup) (hperm : ys.Perm xs) : sortBy less ys = sortBy less xs := by
  have hsorted : (sortBy less ys).Perm (sortBy less xs) :=
    (perm_sortBy less ys).trans (hperm.trans (perm_sortBy less xs).symm)
  have hkeys' : (ys.map key).Nodup := (hperm.map key).nodup_iff.mpr hkeys
  refine hsorted.eq_of_pairwise (fun a b _ _ hab hba => ?_) (pairwise_lt_sortBy key h hkeys')
    (pairwise_lt_sortBy key h hkeys)
  exact absurd hba hab.asymm

end

/-! ## Elements that come first -/

/-- What is less than all that come last goes in front of them. -/
theorem insertBack_append_of_less {x : α} {late : List α} (h : ∀ y ∈ late, less x y = true)
    (early : List α) : insertBack less x (late ++ early) = late ++ insertBack less x early := by
  induction late with
  | nil => rfl
  | cons y rest ih =>
    rw [List.forall_mem_cons] at h
    rw [List.cons_append, insertBack, if_pos h.1, ih h.2, List.cons_append]

/-- What is less than none of those that come first stays behind them. -/
theorem insertBack_append_of_not_less {x : α} {early : List α}
    (h : ∀ y ∈ early, less x y = false) (late : List α) :
    insertBack less x (late ++ early) = insertBack less x late ++ early := by
  induction late with
  | nil =>
    cases early with
    | nil => rfl
    | cons y rest => simp [insertBack, h y List.mem_cons_self]
  | cons y rest ih =>
    rw [List.cons_append, insertBack, insertBack, ih]
    split <;> rfl

/-- **Elements that are less than all others, and than nothing else, come first**, in their
order, and the others are sorted behind them. -/
theorem sortBy_eq_append {first : α → Bool} {xs : List α}
    (hless : ∀ a ∈ xs, ∀ b ∈ xs, first a = true → less a b = !first b)
    (hnot : ∀ a ∈ xs, ∀ b ∈ xs, first a = false → first b = true → less a b = false) :
    sortBy less xs = xs.filter first ++ sortBy less (xs.filter fun x => !first x) := by
  induction xs using List.reverseRecOn with
  | nil => rfl
  | append_singleton xs x ih =>
    have hmem {a : α} (ha : a ∈ xs) : a ∈ xs ++ [x] := List.mem_append_left _ ha
    have hx : x ∈ xs ++ [x] := List.mem_append_right _ List.mem_cons_self
    have hlate : ∀ y ∈ (sortBy less (xs.filter fun x => !first x)).reverse,
        y ∈ xs ∧ first y = false := by
      intro y hy
      rw [List.mem_reverse, (perm_sortBy less _).mem_iff, List.mem_filter] at hy
      exact ⟨hy.1, by simpa using hy.2⟩
    have hearly : ∀ y ∈ (xs.filter first).reverse, y ∈ xs ∧ first y = true :=
      fun y hy => List.mem_filter.mp (List.mem_reverse.mp hy)
    rw [sortBy_concat, ih (fun a ha b hb => hless a (hmem ha) b (hmem hb))
      (fun a ha b hb => hnot a (hmem ha) b (hmem hb)), List.reverse_append, List.filter_append,
      List.filter_append]
    cases hfirst : first x with
    | true =>
      -- the element passes all that come last and stops behind those that come first
      have hpasses : ∀ y ∈ (sortBy less (xs.filter fun x => !first x)).reverse,
          less x y = true := by
        intro y hy
        rw [hless x hx y (hmem (hlate y hy).1) hfirst, (hlate y hy).2]
        rfl
      have hstops : ∀ y ∈ (xs.filter first).reverse, less x y = false := by
        intro y hy
        rw [hless x hx y (hmem (hearly y hy).1) hfirst, (hearly y hy).2]
        rfl
      have hinserted : insertBack less x (xs.filter first).reverse =
          x :: (xs.filter first).reverse := insertBack_append_of_not_less hstops []
      rw [insertBack_append_of_less hpasses, hinserted]
      simp [hfirst]
    | false =>
      have hstays : ∀ y ∈ (xs.filter first).reverse, less x y = false :=
        fun y hy => hnot x hx y (hmem (hearly y hy).1) hfirst (hearly y hy).2
      rw [insertBack_append_of_not_less hstays, List.reverse_append, List.reverse_reverse]
      simp [hfirst, sortBy_concat]

end Lineage.Order
