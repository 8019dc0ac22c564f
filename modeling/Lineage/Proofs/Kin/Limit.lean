import Lineage.Proofs.Kin.Generations

/-!
# Limits

A limit on the generations is looked at when a walk is to go on from the parents or the
children of a person, with the number that the person has then. So it bounds how far the
walk goes, whatever the links:

> `Store.generation_le_limit`: every relative is in a generation within the limit, and its
> number is within the limit as well unless it was given by somebody in several generations.

Two numbers are not bounded by the limit: the parents or children of the person itself are
looked for under any limit, so a limit of 1 is one of 2, and whoever has been given a larger
number since it was lined up goes on from that one (`Store.generation_gt_limit_folded`).
-/

namespace Lineage

open Kin

namespace Kin

theorem Generation.pos {α : Type} {step aside : α → α → Prop} {start a : α} {n : Nat}
    (h : Generation step aside start n a) : 1 ≤ n := by
  induction h with
  | start => exact Nat.le_refl 1
  | next _ _ _ => exact Nat.le_add_left 1 _
  | aside _ _ ih => exact ih

end Kin

theorem lt_of_withinLimit {most generation : Int}
    (h : withinLimit (some most) generation = true) : generation + 1 < most :=
  of_decide_eq_true h

namespace Store

variable {store : Store} {kin : Kin} {anchor : String} {person a : Record} {most : Int} {n : Nat}
  {relative : Relative}

/-- What is known of a number under a limit: it is one of the record's generations, of which one
is within the limit, and it is itself within the limit unless somebody who is one step before
straddles the limit. -/
structure Limited (store : Store) (kin : Kin) (person : Record) (most : Int) (n : Nat)
    (r : Record) : Prop where
  counted : store.InGeneration kin person n r
  near : ∃ k : Nat, (k : Int) ≤ max 2 most ∧ store.InGeneration kin person k r
  bounded : (∀ before, store.IsNext kin before r ∨ store.IsAside kin before r →
    ¬ store.StraddlesLimit kin person most before) → (n : Int) ≤ max 2 most

/-- Whether a record is in a generation that is gone on from under a limit. -/
def Follows (store : Store) (kin : Kin) (person : Record) (most : Int) (r : Record) : Prop :=
  ∃ k : Nat, 1 < k ∧ (k : Int) < most ∧ store.InGeneration kin person k r

theorem limited_start : store.Limited kin person most 1 person where
  counted := .start
  near := ⟨1, by omega, .start⟩
  bounded _ := by omega

/-- The person itself leads to the second generation, under any limit. -/
theorem leadsOn_start :
    LeadsOn (store.IsNext kin) (store.IsAside kin) (some most) (store.Limited kin person most)
      (store.Follows kin person most) 1 person where
  next _ hstep := ⟨.next .start hstep, ⟨2, by omega, .next .start hstep⟩, fun _ => by omega⟩
  level _ haside := ⟨.aside .start haside, ⟨1, by omega, .aside .start haside⟩, fun _ => by omega⟩
  follow hlimit _ hstep := ⟨2, by omega, lt_of_withinLimit hlimit, .next .start hstep⟩

/-- Somebody who is in a generation that is gone on from leads to numbers within the limit, unless
its own number has reached the limit. -/
theorem leadsOn_limited (hfollows : store.Follows kin person most a)
    (h : store.Limited kin person most n a) :
    LeadsOn (store.IsNext kin) (store.IsAside kin) (some most) (store.Limited kin person most)
      (store.Follows kin person most) n a := by
  obtain ⟨k, hpos, hlt, hk⟩ := hfollows
  have hstraddles (hge : most ≤ n) : store.StraddlesLimit kin person most a :=
    ⟨k, n, hpos, hlt, hge, hk, h.counted⟩
  constructor
  · intro b hstep
    refine ⟨.next h.counted hstep, ⟨k + 1, by omega, .next hk hstep⟩, fun hnone => ?_⟩
    have hnot := hnone a (.inl hstep)
    by_contra hgt
    exact hnot (hstraddles (by omega))
  · intro b haside
    refine ⟨.aside h.counted haside, ⟨k, by omega, .aside hk haside⟩, fun hnone => ?_⟩
    have hnot := hnone a (.inr haside)
    by_contra hgt
    exact hnot (hstraddles (by omega))
  · intro hlimit b hstep
    have hn := h.counted.pos
    exact ⟨n + 1, by omega, by have := lt_of_withinLimit hlimit; omega, .next h.counted hstep⟩

/-- **A limit bounds how far relatives are looked for.** Each of the direct ancestors, of the
ancestors with their siblings and of the descendants is in a generation that is within the limit,
or within 2 if the limit is less, whatever the links. Its number is one of its generations, and
within the limit too unless a person one step before it is in two generations, one within the
limit and one that has reached it. -/
theorem generation_le_limit (hkin : kin ∈ [Kin.directAncestors, Kin.ancestors, Kin.descendants])
    (h : relative ∈ store.relatives anchor kin (some most)) :
    ∃ (person : Record) (n : Nat), store.record? anchor = some person ∧
      relative.generation = some (n : Int) ∧ store.InGeneration kin person n relative.record ∧
      (∃ k : Nat, (k : Int) ≤ max 2 most ∧ store.InGeneration kin person k relative.record) ∧
      ((∀ before, store.IsNext kin before relative.record ∨
          store.IsAside kin before relative.record →
        ¬ store.StraddlesLimit kin person most before) → (n : Int) ≤ max 2 most) := by
  obtain ⟨person, hperson, hkind⟩ := exists_of_mem_relatives h
  have hknown := known_relatives hkin hperson hkind (fun n a => leadsOn_limited) limited_start
    leadsOn_start relative h
  obtain ⟨n, hn, hlimited, -⟩ := hknown.numbered
  exact ⟨person, n, hperson, hn, hlimited.counted, hlimited.near, hlimited.bounded⟩

/-- A man, his mother and their child, and the father of the mother. -/
def folded : Store where
  records :=
    [⟨"I", .individual, "0 @I@ INDI\n1 FAMC @A@"⟩, ⟨"F", .individual, "0 @F@ INDI\n1 FAMC @B@"⟩,
      ⟨"M", .individual, "0 @M@ INDI\n1 FAMC @C@"⟩, ⟨"G", .individual, "0 @G@ INDI"⟩,
      ⟨"A", .family, "0 @A@ FAM\n1 HUSB @F@\n1 WIFE @M@"⟩,
      ⟨"B", .family, "0 @B@ FAM\n1 WIFE @M@"⟩, ⟨"C", .family, "0 @C@ FAM\n1 HUSB @G@"⟩]

/-- Under a limit of 2 nobody can straddle it: the mother is in the second generation, which is
within the limit, and that is her number. -/
theorem generation_le_limit_folded :
    ⟨⟨"M", .individual, "0 @M@ INDI\n1 FAMC @C@"⟩, some 2⟩ ∈
        folded.relatives "I" .directAncestors (some 2) ∧
      ∃ (person : Record) (n : Nat), folded.record? "I" = some person ∧ (n : Int) = 2 ∧
        folded.InGeneration .directAncestors person n
          ⟨"M", .individual, "0 @M@ INDI\n1 FAMC @C@"⟩ ∧ (n : Int) ≤ max 2 2 := by
  have hmem : ⟨⟨"M", .individual, "0 @M@ INDI\n1 FAMC @C@"⟩, some 2⟩ ∈
      folded.relatives "I" .directAncestors (some 2) := by decide +kernel
  obtain ⟨person, n, hperson, hn, hin, -, hle⟩ := generation_le_limit List.mem_cons_self hmem
  have hnobody (before : Record) : ¬ folded.StraddlesLimit .directAncestors person 2 before := by
    rintro ⟨k, -, hpos, hlt, -⟩
    omega
  exact ⟨hmem, person, n, hperson, (Option.some_inj.mp hn).symm, hin, hle fun r _ => hnobody r⟩

/-- **Numbers may exceed the limit.** Under a limit of 1 the father has the number 2. Under a limit
of 3 the mother was lined up with the number 2 and had the number 3 when the walk went on from
her, so her father has the number 4. -/
theorem generation_gt_limit_folded :
    (∃ relative ∈ folded.relatives "I" .directAncestors (some 1),
      ∃ n, relative.generation = some n ∧ 1 < n) ∧
    ∃ relative ∈ folded.relatives "I" .directAncestors (some 3),
      ∃ n, relative.generation = some n ∧ 3 < n := by
  constructor
  · exact ⟨⟨⟨"F", .individual, "0 @F@ INDI\n1 FAMC @B@"⟩, some 2⟩, by decide +kernel, 2, rfl,
      by decide⟩
  · exact ⟨⟨⟨"G", .individual, "0 @G@ INDI"⟩, some 4⟩, by decide +kernel, 4, rfl, by decide⟩

end Store

end Lineage
