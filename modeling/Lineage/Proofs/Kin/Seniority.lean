import Lineage.Proofs.Kin.Generations

/-!
# Who is older

The walk up goes on from people in the order of their distance, and whoever it goes on from
gives its parents a number that is larger than its own was then. A parent that is met again
is given another number, but never one that is too small for the distance of those below:

> `Store.generation_of_parent`: the number of a parent exceeds the least number of steps to
> its child by two at least, so it is larger than that of a child whose lines all have the
> same length.

The number that the child ends with may be larger, since a later line gives it another one
and its parents keep theirs (`Store.generation_of_grandfather_crossed`).
-/

namespace Lineage

open Kin

namespace Kin

variable {α : Type} {step : α → α → Prop} {start a : α} {n : Nat}

/-- A number that counts steps is larger than the distance. -/
theorem CountsSteps.distance_lt (h : CountsSteps step start n a) : distance step start a < n := by
  obtain ⟨k, rfl, hreached⟩ := h
  exact Nat.lt_succ_of_le (distance_le hreached)

/-- Where all lines have the same length, the number is the distance and one. -/
theorem CountsSteps.eq_of_single (h : CountsSteps step start n a)
    (hsingle : ∀ j k, Reached step start j a → Reached step start k a → j = k) :
    n = distance step start a + 1 := by
  obtain ⟨k, rfl, hreached⟩ := h
  rw [hsingle k _ hreached (reached_distance ⟨k, hreached⟩)]

end Kin

namespace Ascent

variable {store : Store} {limit : Option Int} {walk : Ascent} {start person : Record}
  {done : List Record} {found : List Relative}

theorem found_enqueueAll (people : List Record) (walk : Ascent) :
    (people.foldl enqueue walk).found = walk.found := by
  induction people generalizing walk with
  | nil => rfl
  | cons person rest ih => rw [List.foldl_cons, ih, found_enqueue]

theorem found_addFamily (generation : Int) (walk : Ascent) (family : Record) :
    (addFamily store limit false generation walk family).found =
      Relative.putAll (generation + 1) (store.spouses family) walk.found := by
  show (addParents store limit generation walk family).found = _
  rw [addParents]
  split
  · exact found_enqueueAll _ _
  · rfl

/-- All parents of a person are put in the next generation. -/
theorem found_addFamilies (generation : Int) (families : List Record) (walk : Ascent) :
    (families.foldl (addFamily store limit false generation) walk).found =
      Relative.putAll (generation + 1) (families.flatMap store.spouses) walk.found := by
  induction families generalizing walk with
  | nil => rfl
  | cons family rest ih =>
    rw [List.foldl_cons, ih, found_addFamily, List.flatMap_cons, Relative.putAll_append]

/-- **The parents of those that are done with are above them**, by the distance of these. -/
def Raised (store : Store) (start : Record) (done : List Record) (found : List Relative) : Prop :=
  ∀ a ∈ done, ∀ b, store.IsParent a b → ∃ n : Nat,
    Relative.find? b.xref found = some ⟨b, some (n : Int)⟩ ∧
      distance store.IsParent start a + 2 ≤ n

/-- Going on from a person that is no closer than those that are done with. Its parents may be
given another number, but not one that is smaller than is known of those below. -/
theorem Raised.next (h : Raised store start done found) {n : Nat}
    (hn : CountsSteps store.IsParent start n person)
    (hsorted : ∀ a ∈ done,
      distance store.IsParent start a ≤ distance store.IsParent start person) :
    Raised store start (done ++ [person])
      (Relative.putAll ((n : Int) + 1) ((store.childFamilies person).flatMap store.spouses)
        found) := by
  have hdistance := hn.distance_lt
  intro a ha b hparent
  have hlisted : ∀ r ∈ (store.childFamilies person).flatMap store.spouses, store.Listed r := by
    intro r hr
    obtain ⟨family, -, hspouse⟩ := List.mem_flatMap.mp hr
    exact Store.listed_of_mem_spouses hspouse
  have hb : store.Listed b := by
    obtain ⟨family, -, hspouse⟩ := hparent
    exact Store.listed_of_mem_spouses (Store.mem_spouses.mpr hspouse)
  rw [Relative.find?_putAll hlisted hb]
  by_cases hmem : b ∈ (store.childFamilies person).flatMap store.spouses
  · rw [if_pos hmem]
    refine ⟨n + 1, rfl, ?_⟩
    rcases List.mem_append.mp ha with ha | ha
    · have hle := hsorted a ha
      omega
    · rw [List.mem_singleton.mp ha]
      omega
  · rw [if_neg hmem]
    rcases List.mem_append.mp ha with ha | ha
    · exact h a ha b hparent
    · rw [List.mem_singleton.mp ha] at hparent
      exact absurd (mem_parents.mpr hparent) hmem

/-- **At the end of the walk all parents are above those below them.** -/
theorem raised_run (hmatches : Matches store done walk)
    (hsearch : Search store.IsParent start done walk.queue)
    (hsound : Sound store (CountsSteps store.IsParent start) (fun _ => True) walk)
    (hraised : Raised store start done walk.found) :
    Raised store start ((run store none false walk).map Relative.record)
      (run store none false walk) := by
  fun_induction run store none false walk generalizing done with
  | case1 walk hqueue =>
    have hfound := hmatches.found
    rw [hqueue, List.append_nil] at hfound
    rw [hfound]
    exact hraised
  | case2 walk person rest hqueue generation =>
    rename_i ih
    obtain ⟨hpopped, -, n, hread, hn, hleft⟩ := hsound.pop hqueue
    have hgeneration : generation = n := hread
    obtain ⟨hlater, hnext⟩ := search_next hmatches hsearch hqueue generation
    refine ih hlater hnext ?_ ?_
    · rw [hgeneration]
      have hleads := Store.leadsOn_countsSteps (.inl rfl) none hn
      exact hpopped.addFamilies (fun h => absurd h Bool.false_ne_true) hleads (fun _ h => h) hleft
    · rw [found_addFamilies, hgeneration]
      refine hraised.next hn fun a ha => ?_
      rw [hqueue] at hsearch
      exact (List.pairwise_append.mp hsearch.sorted).2.2 a ha person List.mem_cons_self

end Ascent

namespace Store

variable {store : Store} {anchor : String} {person : Record} {a b : Relative}

/-- The parents of all direct ancestors are above them. -/
theorem raised_relatives (hperson : store.record? anchor = some person)
    (hkind : person.kind = .individual) :
    Ascent.Raised store person (store.relativeRecords anchor .directAncestors)
      (store.relatives anchor .directAncestors none) := by
  have hlisted : store.Listed person := listed_of_record? hperson
  have hunvisited := unvisited_singleton_lt hlisted
  have hsound : Ascent.Sound store (CountsSteps store.IsParent person) (fun _ => True)
      ⟨[⟨person, some 1⟩], [person], [person.xref]⟩ := by
    refine ⟨List.forall_mem_singleton.mpr ⟨hlisted, 1, rfl, countsSteps_start _ _, ?_⟩,
      List.forall_mem_singleton.mpr (List.mem_singleton_self person), fun _ _ => trivial⟩
    show 1 + ([person].length + store.unvisited [person.xref]) ≤ store.records.length + 1
    rw [List.length_singleton]
    omega
  rw [relativeRecords, relatives, filter_of_individual hperson hkind]
  dsimp only
  rw [Ascent.ofPerson, put_self]
  exact Ascent.raised_run (Ascent.matches_start hlisted) search_start hsound
    fun _ h => absurd h List.not_mem_nil

/-- **A parent is numbered above its child's distance.** Of two direct ancestors one of whom is a
parent of the other, whatever the links: the number of the parent exceeds the least number of
steps to the child by two at least. So if all lines to the child have the same length, the
parent has the larger number, also where lines of different length lead to the parent. -/
theorem generation_of_parent (ha : a ∈ store.relatives anchor .directAncestors none)
    (hb : b ∈ store.relatives anchor .directAncestors none)
    (hparent : store.IsParent a.record b.record) :
    ∃ (person : Record) (g h : Nat), store.record? anchor = some person ∧
      a.generation = some (g : Int) ∧ b.generation = some (h : Int) ∧
      distance store.IsParent person a.record + 1 ≤ g ∧
      distance store.IsParent person a.record + 2 ≤ h ∧
      ((∀ j k, Reached store.IsParent person j a.record →
        Reached store.IsParent person k a.record → j = k) → g < h) := by
  obtain ⟨person, hperson, hkind⟩ := exists_of_mem_relatives ha
  obtain ⟨hsearch, hlisted⟩ := search_directAncestors hperson hkind
  have hstart := countsSteps_start store.IsParent person
  have hknown := known_relatives (List.mem_cons_self) hperson hkind
    (fun n r _ hr => leadsOn_countsSteps (.inl rfl) none hr) hstart
    (leadsOn_countsSteps (.inl rfl) none hstart) a ha
  obtain ⟨g, hg, hcounts, -⟩ := hknown.numbered
  obtain ⟨h, hfind, hle⟩ := raised_relatives hperson hkind a.record (List.mem_map_of_mem ha)
    b.record hparent
  -- each cross-reference stands once among the relatives, so it is the parent that is read back
  have hnodup := hsearch.nodup
  rw [List.append_nil] at hnodup
  have hxrefs := nodup_map_xref hlisted hnodup
  rw [relativeRecords, List.map_map] at hxrefs
  have hsame := Relative.find?_of_mem hxrefs hb
  rw [hfind, Option.some_inj] at hsame
  have hh : b.generation = some (h : Int) := by rw [← hsame]
  have hlt := hcounts.distance_lt
  refine ⟨person, g, h, hperson, hg, hh, hlt, hle, fun hsingle => ?_⟩
  rw [hcounts.eq_of_single hsingle]
  exact hle

/-- A man, his daughter and their child, and the father of the man. -/
def crossed : Store where
  records :=
    [⟨"I", .individual, "0 @I@ INDI\n1 FAMC @A@"⟩, ⟨"F", .individual, "0 @F@ INDI\n1 FAMC @B@"⟩,
      ⟨"M", .individual, "0 @M@ INDI\n1 FAMC @C@"⟩, ⟨"G", .individual, "0 @G@ INDI"⟩,
      ⟨"A", .family, "0 @A@ FAM\n1 HUSB @F@\n1 WIFE @M@"⟩,
      ⟨"B", .family, "0 @B@ FAM\n1 HUSB @G@"⟩, ⟨"C", .family, "0 @C@ FAM\n1 HUSB @F@"⟩]

theorem relatives_crossed :
    crossed.relatives "I" .directAncestors none =
      [⟨⟨"I", .individual, "0 @I@ INDI\n1 FAMC @A@"⟩, some 1⟩,
        ⟨⟨"F", .individual, "0 @F@ INDI\n1 FAMC @B@"⟩, some 3⟩,
        ⟨⟨"M", .individual, "0 @M@ INDI\n1 FAMC @C@"⟩, some 2⟩,
        ⟨⟨"G", .individual, "0 @G@ INDI"⟩, some 3⟩] := by
  decide +kernel

/-- The man is a parent of the child and of its mother. His number is that of the longer line. -/
theorem generation_of_parent_crossed :
    ⟨⟨"M", .individual, "0 @M@ INDI\n1 FAMC @C@"⟩, some 2⟩ ∈
        crossed.relatives "I" .directAncestors none ∧
      ⟨⟨"F", .individual, "0 @F@ INDI\n1 FAMC @B@"⟩, some 3⟩ ∈
        crossed.relatives "I" .directAncestors none ∧
      ∃ person, crossed.record? "I" = some person ∧
        distance crossed.IsParent person ⟨"M", .individual, "0 @M@ INDI\n1 FAMC @C@"⟩ ≤ 1 := by
  have hchild : ⟨⟨"M", .individual, "0 @M@ INDI\n1 FAMC @C@"⟩, some 2⟩ ∈
      crossed.relatives "I" .directAncestors none := by
    rw [relatives_crossed]
    decide
  have hparent : ⟨⟨"F", .individual, "0 @F@ INDI\n1 FAMC @B@"⟩, some 3⟩ ∈
      crossed.relatives "I" .directAncestors none := by
    rw [relatives_crossed]
    decide
  have hstep : crossed.IsParent ⟨"M", .individual, "0 @M@ INDI\n1 FAMC @C@"⟩
      ⟨"F", .individual, "0 @F@ INDI\n1 FAMC @B@"⟩ :=
    Ascent.mem_parents.mp (by decide +kernel)
  obtain ⟨person, g, h, hperson, -, hh, -, hle, -⟩ := generation_of_parent hchild hparent hstep
  rw [Option.some_inj] at hh
  dsimp only at hle
  exact ⟨hchild, hparent, person, hperson, by omega⟩

/-- Steps to a parent that always raise a rank never lead round in a circle. -/
theorem acyclic_of_rank (rank : Record → Nat)
    (h : ∀ a ∈ store.records, ∀ b ∈ (store.childFamilies a).flatMap store.spouses,
      rank a < rank b) : store.Acyclic := by
  have hrises : ∀ n a b, a ∈ store.records → Reached store.IsParent a n b →
      b ∈ store.records ∧ rank a + n ≤ rank b := by
    intro n a b ha hreached
    induction hreached with
    | start => exact ⟨ha, Nat.le_refl _⟩
    | @next n b c _ hstep ih =>
      have hmem : c ∈ (store.childFamilies b).flatMap store.spouses := Ascent.mem_parents.mpr hstep
      have hlt := h b ih.1 c hmem
      obtain ⟨family, -, hspouse⟩ := List.mem_flatMap.mp hmem
      exact ⟨mem_of_mem_spouses hspouse, by omega⟩
  intro r n hcircle
  have hr : r ∈ store.records := by
    cases hcircle with
    | next _ hstep =>
      obtain ⟨family, -, hspouse⟩ := List.mem_flatMap.mp (Ascent.mem_parents.mpr hstep)
      exact mem_of_mem_spouses hspouse
  have hle := (hrises (n + 1) r r hr hcircle).2
  omega

/-- **A parent need not have the larger number.** Nobody is an ancestor of itself, but the man has
the number of his father: he was given a larger one when the walk had gone on from him. -/
theorem generation_of_grandfather_crossed :
    crossed.Acyclic ∧
      ∃ a ∈ crossed.relatives "I" .directAncestors none,
        ∃ b ∈ crossed.relatives "I" .directAncestors none,
          crossed.IsParent a.record b.record ∧ a.generation = some 3 ∧ b.generation = some 3 := by
  refine ⟨acyclic_of_rank (fun r => ["I", "M", "F", "G"].idxOf r.xref) (by decide +kernel), ?_⟩
  rw [relatives_crossed]
  refine ⟨⟨⟨"F", .individual, "0 @F@ INDI\n1 FAMC @B@"⟩, some 3⟩, by decide,
    ⟨⟨"G", .individual, "0 @G@ INDI"⟩, some 3⟩, by decide, ?_, rfl, rfl⟩
  exact Ascent.mem_parents.mp (by decide +kernel)

end Store

end Lineage
