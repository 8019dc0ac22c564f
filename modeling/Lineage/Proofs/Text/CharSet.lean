import Mathlib.Data.List.Sort
import Lineage.Proofs.Text.Case
import Lineage.Text.CharSet

/-!
# The characters of a set

A search in a list of ranges stops at the first range that starts too late, so
it says which code points lie in a range only where the starts are in order.
Joining ranges keeps the code points that lie in them, and what it gives can be
searched again.

The set of a character without regard to case is found by looking through all
pairs of letters that fold one to the other, in both directions. It has just the
characters that fold to the same one: what a character is folded to is not
folded further, so that one step forwards and one step back reach all of them.
-/

namespace Lineage.CharSet

/-- Whether a code point lies in one of several ranges. -/
def Within (n : Nat) (ranges : List (Nat × Nat)) : Prop :=
  ∃ r ∈ ranges, r.1 ≤ n ∧ n ≤ r.2

/-- Ranges in the order of their starts. -/
def Ascending (ranges : List (Nat × Nat)) : Prop :=
  ranges.Pairwise fun x y => x.1 ≤ y.1

variable {n : Nat} {ranges : List (Nat × Nat)}

@[simp] theorem within_nil : ¬ Within n [] := by
  simp [Within]

@[simp] theorem within_cons {r : Nat × Nat} :
    Within n (r :: ranges) ↔ (r.1 ≤ n ∧ n ≤ r.2) ∨ Within n ranges := by
  simp [Within]

theorem within_flatMap {α : Type} {as : List α} {f : α → List (Nat × Nat)} :
    Within n (as.flatMap f) ↔ ∃ a ∈ as, Within n (f a) := by
  simp only [Within, List.mem_flatMap]
  constructor
  · intro hwithin
    obtain ⟨r, ⟨a, ha, hr⟩, hn⟩ := hwithin
    exact ⟨a, ha, r, hr, hn⟩
  · intro hsome
    obtain ⟨a, ha, r, hr, hn⟩ := hsome
    exact ⟨r, ⟨a, ha, hr⟩, hn⟩

theorem within_of_perm {more : List (Nat × Nat)} (h : ranges.Perm more) :
    Within n ranges ↔ Within n more := by
  simp only [Within, h.mem_iff]

/-- No code point before the start of the first range lies in a later one. -/
theorem not_within_of_lt {start : Nat} (h : ∀ r ∈ ranges, start ≤ r.1) (hn : n < start) :
    ¬ Within n ranges := by
  intro hwithin
  obtain ⟨r, hr, hle, -⟩ := hwithin
  have := h r hr
  omega

/-! ## Searching -/

theorem covers_eq_true_iff (h : Ascending ranges) :
    covers n ranges = true ↔ Within n ranges := by
  induction ranges with
  | nil => simp [covers]
  | cons r rest ih =>
    obtain ⟨a, b⟩ := r
    obtain ⟨hfirst, hrest⟩ := List.pairwise_cons.1 h
    rw [within_cons, covers]
    by_cases hn : n < a
    · have hnot := not_within_of_lt hfirst hn
      simp only [hn, if_true, hnot, or_false]
      simp only [Bool.false_eq_true, false_iff]
      omega
    · simp only [hn, if_false, Bool.or_eq_true, decide_eq_true_eq, ih hrest]
      exact or_congr_left ⟨fun hb => ⟨Nat.le_of_not_lt hn, hb⟩, And.right⟩

/-! ## Joining -/

/-- Joining keeps the code points that lie in ranges. -/
theorem within_joinFrom_iff {first last : Nat} (hstart : ∀ r ∈ ranges, first ≤ r.1)
    (h : Ascending ranges) :
    Within n (joinFrom first last ranges) ↔ (first ≤ n ∧ n ≤ last) ∨ Within n ranges := by
  induction ranges generalizing first last with
  | nil => rw [joinFrom, within_cons]
  | cons r rest ih =>
    obtain ⟨a, b⟩ := r
    obtain ⟨hnext, hrest⟩ := List.pairwise_cons.1 h
    have ha : first ≤ a := hstart (a, b) List.mem_cons_self
    rw [joinFrom, within_cons]
    split
    · -- the range touches the one in front of it, so nothing lies between them
      rename_i htouch
      rw [ih (fun r hr => ha.trans (hnext r hr)) hrest, ← or_assoc]
      exact or_congr_left (by dsimp only; omega)
    · rw [within_cons, ih hnext hrest]

theorem le_of_mem_joinFrom {first last : Nat} (hstart : ∀ r ∈ ranges, first ≤ r.1)
    (h : Ascending ranges) {r : Nat × Nat} (hr : r ∈ joinFrom first last ranges) :
    first ≤ r.1 := by
  induction ranges generalizing first last with
  | nil =>
    rw [joinFrom, List.mem_singleton] at hr
    rw [hr]
  | cons q rest ih =>
    obtain ⟨hnext, hrest⟩ := List.pairwise_cons.1 h
    have ha : first ≤ q.1 := hstart q List.mem_cons_self
    rw [joinFrom] at hr
    split at hr
    · exact ih (fun r hr => ha.trans (hnext r hr)) hrest hr
    · rcases List.mem_cons.1 hr with rfl | hr
      · exact Nat.le_refl _
      · exact ha.trans (ih hnext hrest hr)

theorem ascending_joinFrom {first last : Nat} (hstart : ∀ r ∈ ranges, first ≤ r.1)
    (h : Ascending ranges) : Ascending (joinFrom first last ranges) := by
  induction ranges generalizing first last with
  | nil => exact List.pairwise_singleton ..
  | cons q rest ih =>
    obtain ⟨hnext, hrest⟩ := List.pairwise_cons.1 h
    have ha : first ≤ q.1 := hstart q List.mem_cons_self
    rw [joinFrom]
    split
    · exact ih (fun r hr => ha.trans (hnext r hr)) hrest
    · refine List.pairwise_cons.2 ⟨fun r hr => ?_, ih hnext hrest⟩
      exact ha.trans (le_of_mem_joinFrom hnext hrest hr)

theorem within_joined_iff (h : Ascending ranges) :
    Within n (joined ranges) ↔ Within n ranges := by
  cases ranges with
  | nil => rfl
  | cons r rest =>
    obtain ⟨hnext, hrest⟩ := List.pairwise_cons.1 h
    rw [joined, within_joinFrom_iff hnext hrest, within_cons]

theorem ascending_joined (h : Ascending ranges) : Ascending (joined ranges) := by
  cases ranges with
  | nil => exact .nil
  | cons r rest =>
    obtain ⟨hnext, hrest⟩ := List.pairwise_cons.1 h
    exact ascending_joinFrom hnext hrest

/-! ## Unions -/

theorem ascending_mergeSort (ranges : List (Nat × Nat)) :
    Ascending (ranges.mergeSort fun x y => x.1 ≤ y.1) := by
  let le (x y : Nat × Nat) : Bool := x.1 ≤ y.1
  have htrans : ∀ x y z, le x y = true → le y z = true → le x z = true := by
    simp only [le, decide_eq_true_eq]
    exact fun _ _ _ => Nat.le_trans
  have htotal : ∀ x y, (le x y || le y x) = true := by
    simp only [le, Bool.or_eq_true, decide_eq_true_eq]
    exact fun _ _ => Nat.le_total ..
  exact (List.pairwise_mergeSort htrans htotal ranges).imp of_decide_eq_true

theorem ascending_unions (sets : List CharSet) : Ascending (unions sets).ranges :=
  ascending_joined (ascending_mergeSort _)

theorem within_unions_iff {sets : List CharSet} :
    Within n (unions sets).ranges ↔ ∃ s ∈ sets, Within n s.ranges := by
  rw [unions, within_joined_iff (ascending_mergeSort _),
    within_of_perm (List.mergeSort_perm ..), within_flatMap]

/-- A character belongs to a set with more ranges when it belongs to the set or
lies in one of the ranges. -/
theorem contains_unions_pair_iff {s : CharSet} {more : List (Nat × Nat)} {c : Char}
    (hs : Ascending s.ranges) :
    (unions [s, ⟨more⟩]).contains c = true ↔ s.contains c = true ∨ Within c.toNat more := by
  rw [contains, covers_eq_true_iff (ascending_unions _), within_unions_iff, contains,
    covers_eq_true_iff hs]
  simp

/-! ## Spans -/

theorem ascending_span (first last : Nat) : Ascending (span first last) := by
  refine List.Pairwise.filter _ ?_
  exact List.pairwise_pair.2 (Nat.le_max_left first 0xE000)

theorem within_span_iff {first last : Nat} :
    Within n (span first last) ↔ (first ≤ n ∧ n ≤ last) ∧ n.isValidChar := by
  simp only [Within, span, List.mem_filter, Nat.isValidChar, List.mem_cons, decide_eq_true_eq,
    List.not_mem_nil, or_false]
  constructor
  · intro hwithin
    obtain ⟨r, ⟨hr, -⟩, hn⟩ := hwithin
    rcases hr with rfl | rfl
    · dsimp only at hn
      omega
    · dsimp only at hn
      omega
  · intro hvalid
    obtain ⟨hn, hvalid⟩ := hvalid
    rcases hvalid with hlow | hhigh
    · exact ⟨_, ⟨.inl rfl, by dsimp only; omega⟩, by dsimp only; omega⟩
    · exact ⟨_, ⟨.inr rfl, by dsimp only; omega⟩, by dsimp only; omega⟩

theorem contains_range_iff {first last : Nat} {c : Char} :
    (range first last).contains c = true ↔ first ≤ c.toNat ∧ c.toNat ≤ last := by
  rw [contains, range, covers_eq_true_iff (ascending_span first last), within_span_iff]
  exact and_iff_left c.valid

@[simp] theorem contains_single_iff {c d : Char} : (single c).contains d = true ↔ c = d := by
  rw [single, between, contains_range_iff, ← Nat.le_antisymm_iff, Char.toNat_inj]

@[simp] theorem contains_all (c : Char) : all.contains c = true := by
  rw [all, contains_range_iff]
  have hvalid : c.toNat.isValidChar := c.valid
  unfold Nat.isValidChar at hvalid
  omega

/-! ## Letters that differ in case -/

theorem mem_foldPairs_iff {t : Nat} :
    (n, t) ∈ foldPairs ↔ Chars.Run.find? Chars.foldRuns n = some t := by
  simp only [foldPairs, List.mem_flatMap, List.mem_map, List.mem_range, Prod.mk.injEq]
  constructor
  · intro hpair
    obtain ⟨r, hr, i, hi, rfl, rfl⟩ := hpair
    obtain ⟨hlast, -⟩ := Chars.foldRuns_nonempty r hr
    have hwithin : i * r.step ≤ r.last - r.first :=
      (Nat.mul_le_mul_right _ (Nat.le_of_lt_succ hi)).trans (Nat.div_mul_le_self _ _)
    refine Chars.Run.find?_eq_some_of_covers Chars.foldRuns_pairwise_before hr ⟨?_, ?_, ?_⟩
    · exact Nat.le_add_right _ _
    · omega
    · rw [Nat.add_sub_cancel_left, Nat.mul_mod_left]
  · intro h
    obtain ⟨r, hr, ⟨hfirst, hlast, hstep⟩, rfl⟩ :=
      Chars.Run.exists_covers_of_find?_eq_some h
    have hn : r.first + (n - r.first) / r.step * r.step = n := by
      rw [Nat.div_mul_cancel (Nat.dvd_of_mod_eq_zero hstep)]
      omega
    refine ⟨r, hr, (n - r.first) / r.step, ?_, hn, ?_⟩
    · exact Nat.lt_succ_of_le (Nat.div_le_div_right (Nat.sub_le_sub_right hlast _))
    · rw [hn]
      rfl

/-- What one pass over pairs of code points adds to a set: the second ones of
the pairs whose first one belongs to it. -/
theorem within_added_iff {pairs : List (Nat × Nat)} (hvalid : ∀ p ∈ pairs, p.1.isValidChar)
    {s : CharSet} {d : Char} :
    Within d.toNat (pairs.flatMap fun p => if covers p.1 s.ranges then span p.2 p.2 else []) ↔
      ∃ c, s.contains c = true ∧ (c.toNat, d.toNat) ∈ pairs := by
  rw [within_flatMap]
  constructor
  · intro hwithin
    obtain ⟨⟨n, t⟩, hpair, hd⟩ := hwithin
    split at hd
    · rename_i hn
      obtain ⟨⟨hlow, hhigh⟩, -⟩ := within_span_iff.1 hd
      obtain rfl : t = d.toNat := Nat.le_antisymm hlow hhigh
      have hchar : (Char.ofNat n).toNat = n := Chars.toNat_ofNat (hvalid _ hpair)
      exact ⟨Char.ofNat n, by rw [contains, hchar]; exact hn, by rw [hchar]; exact hpair⟩
    · cases within_nil hd
  · intro hsome
    obtain ⟨c, hc, hpair⟩ := hsome
    refine ⟨(c.toNat, d.toNat), hpair, ?_⟩
    have hcovers : covers c.toNat s.ranges = true := hc
    rw [if_pos hcovers, within_span_iff]
    exact ⟨⟨Nat.le_refl _, Nat.le_refl _⟩, d.valid⟩

/-- A pass forwards adds the letters that those of a set are folded to. -/
theorem within_folded_iff {s : CharSet} {d : Char} :
    Within d.toNat (foldPairs.flatMap fun (n, t) => if covers n s.ranges then span t t else []) ↔
      ∃ c, s.contains c = true ∧ Chars.Run.find? Chars.foldRuns c.toNat = some d.toNat := by
  have hvalid : ∀ p ∈ foldPairs, p.1.isValidChar := fun (n, t) hp =>
    (Chars.isValidChar_of_find?_foldRuns (mem_foldPairs_iff.1 hp)).1
  simp only [← mem_foldPairs_iff]
  exact within_added_iff hvalid

/-- A pass backwards adds the letters that are folded to those of a set. -/
theorem within_unfolded_iff {s : CharSet} {d : Char} :
    Within d.toNat (foldPairs.flatMap fun (n, t) => if covers t s.ranges then span n n else []) ↔
      ∃ c, s.contains c = true ∧ Chars.Run.find? Chars.foldRuns d.toNat = some c.toNat := by
  have hvalid : ∀ p ∈ foldPairs.map Prod.swap, p.1.isValidChar := by
    rw [List.forall_mem_map]
    exact fun (n, t) hp => (Chars.isValidChar_of_find?_foldRuns (mem_foldPairs_iff.1 hp)).2
  have hadded := within_added_iff hvalid (s := s) (d := d)
  rw [List.flatMap_map] at hadded
  refine hadded.trans (exists_congr fun c => and_congr_right fun _ => ?_)
  rw [← mem_foldPairs_iff, List.mem_map]
  constructor
  · intro hmem
    obtain ⟨⟨n, t⟩, hp, hswap⟩ := hmem
    obtain ⟨rfl, rfl⟩ := Prod.mk.inj hswap
    exact hp
  · exact fun hp => ⟨_, hp, rfl⟩

/-- A set without regard to case has the characters that fold to the same one as
a character of the set. -/
theorem contains_anyCase_iff {s : CharSet} (hs : Ascending s.ranges) {d : Char} :
    s.anyCase.contains d = true ↔ ∃ c, s.contains c = true ∧ Chars.fold c = Chars.fold d := by
  rw [anyCase, contains_unions_pair_iff (ascending_unions _), within_unfolded_iff]
  simp only [contains_unions_pair_iff hs, within_folded_iff]
  constructor
  · intro hadded
    rcases hadded with (hd | ⟨c, hc, hcd⟩) | ⟨e, he | ⟨c, hc, hce⟩, hde⟩
    · exact ⟨d, hd, rfl⟩
    · refine ⟨c, hc, ?_⟩
      rw [← Chars.fold_eq_of_find?_eq_some hcd, Chars.fold_fold]
    · refine ⟨e, he, ?_⟩
      rw [← Chars.fold_eq_of_find?_eq_some hde, Chars.fold_fold]
    · refine ⟨c, hc, ?_⟩
      rw [Chars.fold_eq_of_find?_eq_some hce, Chars.fold_eq_of_find?_eq_some hde]
  · intro hsome
    obtain ⟨c, hc, hsame⟩ := hsome
    -- one step from `c` to the letter that both fold to, and one from there to `d`
    have hmid : (s.contains (Chars.fold d) = true ∨ ∃ c, s.contains c = true ∧
        Chars.Run.find? Chars.foldRuns c.toNat = some (Chars.fold d).toNat) := by
      rw [← hsame]
      rcases Chars.fold_eq_self_or c with hself | hrow
      · exact .inl (by rw [hself]; exact hc)
      · exact .inr ⟨c, hc, hrow⟩
    rcases Chars.fold_eq_self_or d with hself | hrow
    · rw [hself] at hmid
      exact .inl hmid
    · exact .inr ⟨Chars.fold d, hmid, hrow⟩

/-- The forms of a letter are the letters that fold to the same one. -/
theorem contains_anyCase_single_iff {c d : Char} :
    (single c).anyCase.contains d = true ↔ Chars.fold c = Chars.fold d := by
  have hs : Ascending (single c).ranges := ascending_span c.toNat c.toNat
  rw [contains_anyCase_iff hs]
  simp

/-- The two forms of a letter. -/
theorem anyCase_single_f : (single 'f').anyCase = ⟨[(70, 70), (102, 102)]⟩ := by
  have hfolded : (foldPairs.flatMap fun (n, t) =>
      if covers n (single 'f').ranges then span t t else []) = [] := by
    decide +kernel
  have hunfolded : (foldPairs.flatMap fun (n, t) =>
      if covers t [(102, 102)] then span n n else []) = [(70, 70)] := by
    decide +kernel
  have hself : unions [single 'f', ⟨[]⟩] = ⟨[(102, 102)]⟩ := by
    have hranges : (single 'f').ranges = [(102, 102)] := by decide
    simp [unions, hranges, joined, joinFrom]
  have hboth : unions [⟨[(102, 102)]⟩, ⟨[(70, 70)]⟩] = ⟨[(70, 70), (102, 102)]⟩ := by
    simp [unions, List.mergeSort, List.MergeSort.Internal.splitInTwo, joined, joinFrom]
  rw [anyCase]
  simp only [hfolded, hself, hunfolded, hboth]

end Lineage.CharSet
