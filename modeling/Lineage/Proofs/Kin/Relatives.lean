import Lineage.Proofs.Kin.Search

/-!
# The relatives that are found

The walk up the tree is a breadth-first search: what it found, in its order, is what is
done with and the queue behind it, and a person has been met when its record was found.
The walk down the tree goes by tasks. Of whoever was found, either a task is still to
come or all children have been found.

> `Store.relativeRecords_reached`: whatever the links, the direct ancestors and the
> descendants are the records that steps from the person lead to, each once, and the
> ancestors come in the order of their distance.
-/

namespace Lineage

open Kin

namespace Store

/-- Whether a record is the one that its cross-reference leads to. -/
def Listed (store : Store) (record : Record) : Prop :=
  store.record? record.xref = some record

variable {store : Store} {r s : Record}

theorem Listed.eq_of_xref (hr : store.Listed r) (hs : store.Listed s) (h : r.xref = s.xref) :
    r = s := by
  rw [Listed, h, hs] at hr
  exact (Option.some.inj hr).symm

theorem listed_of_record? {xref : String} (h : store.record? xref = some r) : store.Listed r := by
  rw [Listed, xref_of_record? h, h]

theorem listed_of_mem_linked {tag : String} (h : r ∈ store.linked s tag) : store.Listed r := by
  obtain ⟨_, _, hfound⟩ := List.mem_filterMap.mp h
  exact listed_of_record? hfound

theorem mem_spouses {family : Record} :
    r ∈ store.spouses family ↔ store.husband? family = some r ∨ store.wife? family = some r := by
  rw [spouses, List.mem_append, Option.mem_toList, Option.mem_toList]

theorem listed_of_mem_spouses {family : Record} (h : r ∈ store.spouses family) :
    store.Listed r := by
  rcases mem_spouses.mp h with h | h <;> exact listed_of_mem_linked (List.mem_of_head? h)

/-- Records with different places in the store have different cross-references. -/
theorem nodup_map_xref {records : List Record} (hlisted : ∀ r ∈ records, store.Listed r)
    (h : records.Nodup) : (records.map Record.xref).Nodup :=
  h.map_on fun r hr s hs hxref => (hlisted r hr).eq_of_xref (hlisted s hs) hxref

end Store

namespace Relative

variable {store : Store}

/-- The records of relatives, when one is put among them. -/
theorem map_record_put {relative : Relative} {found : List Relative}
    (hrelative : store.Listed relative.record)
    (hfound : ∀ r ∈ found.map Relative.record, store.Listed r) :
    (put relative found).map Relative.record =
      found.map Relative.record ++ newIn (found.map Relative.record) [relative.record] := by
  induction found with
  | nil => rfl
  | cons r rest ih =>
    rw [List.map_cons, List.forall_mem_cons] at hfound
    rw [put]
    by_cases hxref : r.record.xref = relative.record.xref
    · have hsame := hfound.1.eq_of_xref hrelative hxref
      rw [if_pos hxref, List.map_cons, List.map_cons, hsame, newIn, if_pos List.mem_cons_self,
        newIn, List.append_nil]
    · have hne : relative.record ≠ r.record := fun h => hxref (by rw [h])
      rw [if_neg hxref, List.map_cons, ih hfound.2, List.map_cons, List.cons_append]
      simp [newIn, hne]

/-- **The records of relatives, when others are put among them**: those that are new come
behind. -/
theorem map_record_putAll (generation : Int) {records : List Record} {found : List Relative}
    (hrecords : ∀ r ∈ records, store.Listed r)
    (hfound : ∀ r ∈ found.map Relative.record, store.Listed r) :
    (putAll generation records found).map Relative.record =
      found.map Relative.record ++ newIn (found.map Relative.record) records := by
  induction records generalizing found with
  | nil => simp [putAll, newIn]
  | cons r rest ih =>
    rw [List.forall_mem_cons] at hrecords
    have hput := @map_record_put store ⟨r, some generation⟩ found hrecords.1 hfound
    have hlisted : ∀ s ∈ (put ⟨r, some generation⟩ found).map Relative.record,
        store.Listed s := by
      intro s hs
      rw [hput, mem_append_newIn, List.mem_singleton] at hs
      rcases hs with hs | rfl
      · exact hfound s hs
      · exact hrecords.1
    have hlater := ih hrecords.2 hlisted
    rw [putAll, List.foldl_cons]
    rw [putAll] at hlater
    rw [hlater, hput, newIn_cons _ r rest, List.append_assoc]

end Relative

/-! ## Ancestors -/

namespace Ascent

variable {store : Store} {before : List Record} {walk : Ascent}

/-- The people met are those before the queue and in it. -/
structure Lined (store : Store) (before : List Record) (walk : Ascent) : Prop where
  visited : ∀ xref, xref ∈ walk.visited ↔ ∃ r ∈ before ++ walk.queue, r.xref = xref
  listed : ∀ r ∈ before ++ walk.queue, store.Listed r

theorem Lined.enqueue (h : Lined store before walk) {person : Record}
    (hperson : store.Listed person) :
    Lined store before (walk.enqueue person) ∧
      (walk.enqueue person).queue = walk.queue ++ newIn (before ++ walk.queue) [person] ∧
      (walk.enqueue person).found = walk.found := by
  have hmet : person.xref ∈ walk.visited ↔ person ∈ before ++ walk.queue := by
    rw [h.visited]
    constructor
    · rintro ⟨r, hr, hxref⟩
      exact (h.listed r hr).eq_of_xref hperson hxref ▸ hr
    · exact fun hmem => ⟨person, hmem, rfl⟩
  rw [Ascent.enqueue]
  by_cases hmem : person ∈ before ++ walk.queue
  · rw [if_pos (List.contains_iff_mem.mpr (hmet.mpr hmem)), newIn, if_pos hmem, newIn,
      List.append_nil]
    exact ⟨h, rfl, rfl⟩
  · rw [if_neg fun hcontains => hmem (hmet.mp (List.contains_iff_mem.mp hcontains)), newIn,
      if_neg hmem, newIn]
    refine ⟨⟨fun xref => ?_, ?_⟩, rfl, rfl⟩
    · dsimp only
      rw [List.mem_cons, h.visited, ← List.append_assoc]
      simp only [List.mem_append, List.mem_singleton, or_and_right, exists_or, exists_eq_left]
      rw [or_comm, eq_comm]
    · dsimp only
      rw [← List.append_assoc, List.forall_mem_append, List.forall_mem_singleton]
      exact ⟨h.listed, hperson⟩

theorem Lined.enqueueAll (h : Lined store before walk) {people : List Record}
    (hpeople : ∀ r ∈ people, store.Listed r) :
    Lined store before (people.foldl Ascent.enqueue walk) ∧
      (people.foldl Ascent.enqueue walk).queue =
        walk.queue ++ newIn (before ++ walk.queue) people ∧
      (people.foldl Ascent.enqueue walk).found = walk.found := by
  induction people generalizing walk with
  | nil => exact ⟨h, (List.append_nil _).symm, rfl⟩
  | cons person rest ih =>
    rw [List.forall_mem_cons] at hpeople
    obtain ⟨hlined, hqueue, hfound⟩ := h.enqueue hpeople.1
    obtain ⟨hlined', hqueue', hfound'⟩ := ih hlined hpeople.2
    refine ⟨hlined', ?_, hfound'.trans hfound⟩
    rw [List.foldl_cons, hqueue', hqueue, newIn_cons _ person rest]
    simp only [List.append_assoc]

/-- What was found is what comes before the queue, and the queue. -/
structure Matches (store : Store) (before : List Record) (walk : Ascent) : Prop
    extends Lined store before walk where
  found : walk.found.map Relative.record = before ++ walk.queue

/-- The walk starts with the person in the queue. -/
theorem matches_start {person : Record} (h : store.Listed person) :
    Matches store [] ⟨[⟨person, some 1⟩], [person], [person.xref]⟩ where
  visited xref := by simp [eq_comm]
  listed := List.forall_mem_singleton.mpr h
  found := rfl

/-- One family adds the parents that are new, to the queue as to what was found. -/
theorem Matches.addFamily (h : Matches store before walk) (generation : Int) (family : Record) :
    Matches store before (addFamily store none false generation walk family) ∧
      (Ascent.addFamily store none false generation walk family).queue =
        walk.queue ++ newIn (before ++ walk.queue) (store.spouses family) := by
  have hparents : ∀ r ∈ store.spouses family, store.Listed r :=
    fun r => Store.listed_of_mem_spouses
  have hput := Relative.map_record_putAll (generation + 1) hparents (h.found ▸ h.listed)
  have hlined : Lined store before
      { walk with found := Relative.putAll (generation + 1) (store.spouses family) walk.found } :=
    ⟨h.visited, h.listed⟩
  obtain ⟨hlined', hqueue, hfound⟩ := hlined.enqueueAll hparents
  have hadd : Ascent.addFamily store none false generation walk family =
      (store.spouses family).foldl Ascent.enqueue
        { walk with found := Relative.putAll (generation + 1) (store.spouses family) walk.found } :=
    rfl
  rw [hadd]
  refine ⟨⟨hlined', ?_⟩, hqueue⟩
  rw [hfound, hput, hqueue, h.found, List.append_assoc]

theorem Matches.addFamilies (h : Matches store before walk) (generation : Int)
    (families : List Record) :
    Matches store before (families.foldl (Ascent.addFamily store none false generation) walk) ∧
      (families.foldl (Ascent.addFamily store none false generation) walk).queue =
        walk.queue ++ newIn (before ++ walk.queue) (families.flatMap store.spouses) := by
  induction families generalizing walk with
  | nil => exact ⟨h, (List.append_nil _).symm⟩
  | cons family rest ih =>
    obtain ⟨hmatches, hqueue⟩ := h.addFamily generation family
    obtain ⟨hmatches', hqueue'⟩ := ih hmatches
    refine ⟨hmatches', ?_⟩
    rw [List.foldl_cons, hqueue', hqueue, List.flatMap_cons, newIn_append]
    simp only [List.append_assoc]

theorem mem_parents {person parent : Record} :
    parent ∈ (store.childFamilies person).flatMap store.spouses ↔ store.IsParent person parent := by
  rw [List.mem_flatMap]
  simp only [Store.mem_spouses]
  rfl

/-- The walk goes on from the person at the head of the queue, and so does the search. -/
theorem search_next {start person : Record} {done rest : List Record}
    (hmatches : Matches store done walk)
    (hsearch : Search store.IsParent start done walk.queue) (hqueue : walk.queue = person :: rest)
    (generation : Int) :
    Matches store (done ++ [person])
        ((store.childFamilies person).foldl (Ascent.addFamily store none false generation)
          { walk with queue := rest }) ∧
      Search store.IsParent start (done ++ [person])
        ((store.childFamilies person).foldl (Ascent.addFamily store none false generation)
          { walk with queue := rest }).queue := by
  rw [hqueue] at hsearch
  have hfront : done ++ person :: rest = (done ++ [person]) ++ rest := by simp
  have hpopped : Matches store (done ++ [person]) { walk with queue := rest } := by
    refine ⟨⟨?_, ?_⟩, ?_⟩
    · rw [← hfront, ← hqueue]
      exact hmatches.visited
    · rw [← hfront, ← hqueue]
      exact hmatches.listed
    · rw [← hfront, ← hqueue]
      exact hmatches.found
  obtain ⟨hlater, hlined⟩ := hpopped.addFamilies generation (store.childFamilies person)
  refine ⟨hlater, ?_⟩
  rw [hlined, ← hfront]
  refine (hsearch.findAll fun parent => mem_parents.mp).next fun parent hparent => ?_
  rw [← List.cons_append, ← List.append_assoc, mem_append_newIn]
  exact .inr (mem_parents.mpr hparent)

/-- **The walk up is a search to its end.** -/
theorem search_run {start : Record} {done : List Record}
    (hmatches : Matches store done walk)
    (hsearch : Search store.IsParent start done walk.queue) :
    Search store.IsParent start ((run store none false walk).map Relative.record) [] ∧
      ∀ r ∈ (run store none false walk).map Relative.record, store.Listed r := by
  fun_induction run store none false walk generalizing done with
  | case1 walk hqueue =>
    have hfound := hmatches.found
    have hlisted := hmatches.listed
    rw [hqueue, List.append_nil] at hfound hlisted
    rw [hqueue] at hsearch
    rw [hfound]
    exact ⟨hsearch, hlisted⟩
  | case2 walk person rest hqueue generation =>
    rename_i ih
    obtain ⟨hlater, hnext⟩ := search_next hmatches hsearch hqueue generation
    exact ih hlater hnext

end Ascent

/-! ## Descendants -/

namespace Descent

/-- What a task relies on: a child has been found, a person as well, and so has the spouse
whose family it is. -/
def Sound (store : Store) (found : List Record) : Descent → Prop
  | child xref => ∀ r, store.record? xref = some r → r ∈ found
  | person record => record ∈ found
  | family _ _ record => ∃ a ∈ found, record ∈ store.spouseFamilies a

theorem Sound.mono {task : Descent} {store : Store} {found more : List Record}
    (h : Sound store found task) (hfound : ∀ r ∈ found, r ∈ more) : Sound store more task := by
  cases task with
  | child xref => exact fun r hr => hfound r (h r hr)
  | person r => exact hfound r h
  | family _ _ record =>
    obtain ⟨a, ha, hrecord⟩ := h
    exact ⟨a, hfound a ha, hrecord⟩

/-- What has become of a person that has been visited: it is next, or each of its families is a
task or has no children that are still to be found. -/
def Followed (store : Store) (work : List Descent) (found : List Record) (r : Record) : Prop :=
  person r ∈ work ∨ ∀ record ∈ store.spouseFamilies r,
    (∃ spouse generation, family spouse generation record ∈ work) ∨
      ∀ c ∈ store.children record, c ∈ found

theorem Followed.mono {store : Store} {work later : List Descent} {found more : List Record}
    {r : Record} (h : Followed store work found r)
    (hperson : person r ∈ work → Followed store later more r)
    (hfamily : ∀ spouse generation record, family spouse generation record ∈ work →
      family spouse generation record ∈ later ∨ ∀ c ∈ store.children record, c ∈ more)
    (hfound : ∀ c ∈ found, c ∈ more) : Followed store later more r := by
  rcases h with htask | hall
  · exact hperson htask
  · refine .inr fun record hrecord => ?_
    rcases hall record hrecord with ⟨spouse, generation, htask⟩ | hchildren
    · rcases hfamily spouse generation record htask with htask | hchildren
      · exact .inl ⟨spouse, generation, htask⟩
      · exact .inr hchildren
    · exact .inr fun c hc => hfound c (hchildren c hc)

/-- People that steps to a child lead to, each once, and the one that they lead from. -/
structure Found (store : Store) (root : Record) (found : List Record) : Prop where
  nodup : found.Nodup
  listed : ∀ r ∈ found, store.Listed r
  started : root ∈ found
  reached : ∀ r ∈ found, ∃ n, Reached store.IsChild root n r

/-- **A walk down the tree on its way.** Whoever was found is waiting as a child or has been
visited, and whoever has been visited is being followed. -/
structure Exploring (store : Store) (root : Record) (work : List Descent) (found : List Record)
    (visited : List String) : Prop extends Found store root found where
  sound : ∀ task ∈ work, Sound store found task
  met : ∀ xref ∈ visited, ∃ r ∈ found, r.xref = xref
  waiting : ∀ r ∈ found, r.xref ∈ visited ∨ child r.xref ∈ work
  followed : ∀ r ∈ found, r.xref ∈ visited → Followed store work found r

variable {store : Store} {root : Record} {work rest : List Descent} {found : List Record}
  {visited : List String}

theorem exploring_root (h : store.Listed root) :
    Exploring store root [person root] [root] [root.xref] where
  nodup := List.nodup_singleton root
  listed := List.forall_mem_singleton.mpr h
  started := List.mem_singleton_self root
  reached := List.forall_mem_singleton.mpr ⟨0, .start⟩
  sound := List.forall_mem_singleton.mpr (List.mem_singleton_self root)
  met := List.forall_mem_singleton.mpr ⟨root, List.mem_singleton_self root, rfl⟩
  waiting := List.forall_mem_singleton.mpr (.inl (List.mem_singleton_self _))
  followed := List.forall_mem_singleton.mpr fun _ => .inl (List.mem_singleton_self _)

/-- The children of a family of somebody who has been found can be found. -/
theorem Found.gather {a record : Record} (h : Found store root found) (ha : a ∈ found)
    (hrecord : record ∈ store.spouseFamilies a) :
    Found store root (found ++ newIn found (store.children record)) where
  nodup := nodup_append_newIn h.nodup _
  listed r hr := by
    rcases mem_append_newIn.mp hr with hr | hr
    · exact h.listed r hr
    · exact Store.listed_of_mem_linked hr
  started := List.mem_append_left _ h.started
  reached r hr := by
    obtain ⟨n, hn⟩ := h.reached a ha
    rcases mem_append_newIn.mp hr with hr | hr
    · exact h.reached r hr
    · exact ⟨n + 1, hn.next ⟨record, hrecord, hr⟩⟩

namespace Exploring

/-- A child is passed over that is not in the store or has been visited. -/
theorem skip {xref : String} (h : Exploring store root (child xref :: rest) found visited)
    (hskip : store.record? xref = none ∨ xref ∈ visited) :
    Exploring store root rest found visited where
  toFound := h.toFound
  sound := (List.forall_mem_cons.mp h.sound).2
  met := h.met
  waiting r hr := by
    rcases h.waiting r hr with hvisited | htask
    · exact .inl hvisited
    · rcases List.mem_cons.mp htask with heq | htask
      · cases heq
        rcases hskip with hnone | hvisited
        · rw [h.listed r hr] at hnone
          cases hnone
        · exact .inl hvisited
      · exact .inr htask
  followed r hr hvisited := by
    refine (h.followed r hr hvisited).mono (fun htask => ?_) (fun _ _ _ htask => ?_) fun _ => id
    · exact .inl ((List.mem_cons.mp htask).resolve_left nofun)
    · exact .inl ((List.mem_cons.mp htask).resolve_left nofun)

/-- A child becomes the person that is next. -/
theorem visit {r : Record} (h : Exploring store root (child r.xref :: rest) found visited)
    (hr : store.record? r.xref = some r) :
    Exploring store root (person r :: rest) found (r.xref :: visited) where
  toFound := h.toFound
  sound := by
    obtain ⟨hchild, hrest⟩ := List.forall_mem_cons.mp h.sound
    exact List.forall_mem_cons.mpr ⟨hchild r hr, hrest⟩
  met := by
    obtain ⟨hchild, -⟩ := List.forall_mem_cons.mp h.sound
    exact List.forall_mem_cons.mpr ⟨⟨r, hchild r hr, rfl⟩, h.met⟩
  waiting s hs := by
    rcases h.waiting s hs with hvisited | htask
    · exact .inl (List.mem_cons_of_mem _ hvisited)
    · rcases List.mem_cons.mp htask with heq | htask
      · injection heq with hxref
        exact .inl (hxref ▸ List.mem_cons_self)
      · exact .inr (List.mem_cons_of_mem _ htask)
  followed s hs hvisited := by
    rcases List.mem_cons.mp hvisited with hxref | hvisited
    · rw [(h.listed s hs).eq_of_xref hr hxref]
      exact .inl List.mem_cons_self
    · refine (h.followed s hs hvisited).mono (fun htask => ?_) (fun _ _ _ htask => ?_) fun _ => id
      · exact .inl (List.mem_cons_of_mem _ ((List.mem_cons.mp htask).resolve_left nofun))
      · exact .inl (List.mem_cons_of_mem _ ((List.mem_cons.mp htask).resolve_left nofun))

/-- The families of a person become tasks. -/
theorem expand {r : Record} (h : Exploring store root (person r :: rest) found visited)
    (generation : Int) :
    Exploring store root (families store r generation ++ rest) found visited where
  toFound := h.toFound
  sound := by
    obtain ⟨hperson, hrest⟩ := List.forall_mem_cons.mp h.sound
    refine List.forall_mem_append.mpr ⟨fun task htask => ?_, hrest⟩
    obtain ⟨record, hrecord, rfl⟩ := List.mem_map.mp htask
    exact ⟨r, hperson, hrecord⟩
  met := h.met
  waiting s hs := by
    rcases h.waiting s hs with hvisited | htask
    · exact .inl hvisited
    · exact .inr (List.mem_append_right _ ((List.mem_cons.mp htask).resolve_left nofun))
  followed s hs hvisited := by
    refine (h.followed s hs hvisited).mono (fun htask => ?_) (fun _ _ _ htask => ?_) fun _ => id
    · rcases List.mem_cons.mp htask with heq | htask
      · injection heq with hsame
        subst hsame
        refine .inr fun record hrecord => .inl ⟨s.xref, generation, ?_⟩
        exact List.mem_append_left _ (List.mem_map_of_mem hrecord)
      · exact .inl (List.mem_append_right _ htask)
    · exact .inl (List.mem_append_right _ ((List.mem_cons.mp htask).resolve_left nofun))

/-- The children of a family are found and become tasks. -/
theorem gather {spouse : String} {generation : Int} {record : Record}
    (h : Exploring store root (family spouse generation record :: rest) found visited) :
    Exploring store root (children store record ++ rest)
      (found ++ newIn found (store.children record)) visited := by
  obtain ⟨⟨a, ha, hrecord⟩, hrest⟩ := List.forall_mem_cons.mp h.sound
  have hlater := h.toFound.gather ha hrecord
  have hold : ∀ r ∈ found, r ∈ found ++ newIn found (store.children record) :=
    fun r hr => List.mem_append_left _ hr
  have hnew : ∀ c ∈ store.children record, c ∈ found ++ newIn found (store.children record) :=
    fun c hc => mem_append_newIn.mpr (.inr hc)
  refine ⟨hlater, ?_, fun xref hxref => ?_, fun r hr => ?_, fun r hr hvisited => ?_⟩
  · refine List.forall_mem_append.mpr ⟨fun task htask => ?_, fun task htask => ?_⟩
    · obtain ⟨c, hc, rfl⟩ := List.mem_map.mp htask
      intro r hr
      have hsame : c = r :=
        (Store.listed_of_mem_linked hc).eq_of_xref (Store.listed_of_record? hr)
          (Store.xref_of_record? hr).symm
      exact hsame ▸ hnew c hc
    · exact (hrest task htask).mono hold
  · obtain ⟨r, hr, hsame⟩ := h.met xref hxref
    exact ⟨r, hold r hr, hsame⟩
  · rcases mem_append_newIn.mp hr with hr | hr
    · rcases h.waiting r hr with hvisited | htask
      · exact .inl hvisited
      · exact .inr (List.mem_append_right _ ((List.mem_cons.mp htask).resolve_left nofun))
    · exact .inr (List.mem_append_left _ (List.mem_map_of_mem hr))
  · -- whoever has been visited had been found before
    have hbefore : r ∈ found := by
      obtain ⟨s, hs, hxref⟩ := h.met _ hvisited
      exact (h.listed s hs).eq_of_xref (hlater.listed r hr) hxref ▸ hs
    refine (h.followed r hbefore hvisited).mono (fun htask => ?_) (fun _ _ other htask => ?_) hold
    · exact .inl (List.mem_append_right _ ((List.mem_cons.mp htask).resolve_left nofun))
    · rcases List.mem_cons.mp htask with heq | htask
      · injection heq with _ _ hsame
        subst hsame
        exact .inr hnew
      · exact .inl (List.mem_append_right _ htask)

/-- **All has been found once no task is left.** -/
theorem mem_iff_of_finished (h : Exploring store root [] found visited) (r : Record) :
    r ∈ found ↔ ∃ n, Reached store.IsChild root n r := by
  constructor
  · exact h.reached r
  · rintro ⟨n, hr⟩
    induction hr with
    | start => exact h.started
    | @next _ a b _ hstep ih =>
      obtain ⟨record, hrecord, hchild⟩ := hstep
      have hvisited : a.xref ∈ visited := (h.waiting a ih).resolve_right List.not_mem_nil
      rcases (h.followed a ih hvisited).resolve_left List.not_mem_nil record hrecord with
        ⟨_, _, htask⟩ | hchildren
      · cases htask
      · exact hchildren b hchild

end Exploring

/-- The person that is next has been found, and stays in its place. -/
theorem map_record_settle {r : Record} {relatives : List Relative} (hr : store.Listed r)
    (hrelatives : ∀ s ∈ relatives.map Relative.record, store.Listed s)
    (hmem : r ∈ relatives.map Relative.record) :
    (settle r relatives).2.map Relative.record = relatives.map Relative.record := by
  have hrecord : ((Relative.find? r.xref relatives).getD ⟨r, none⟩).record = r := by
    cases hfind : Relative.find? r.xref relatives with
    | none => rfl
    | some relative =>
      have hlisted := hrelatives _ (List.mem_map_of_mem (List.mem_of_find?_eq_some hfind))
      exact hlisted.eq_of_xref hr (by simpa using List.find?_some hfind)
  rw [settle]
  dsimp only
  rw [Relative.map_record_put (by rw [hrecord]; exact hr) hrelatives]
  simp [hrecord, newIn, hmem]

/-- **The walk down is carried out to its end.** -/
theorem exploring_run {relatives : List Relative}
    (h : Exploring store root work (relatives.map Relative.record) visited) :
    Exploring store root [] ((run store none false work relatives visited).1.map Relative.record)
      (run store none false work relatives visited).2 := by
  fun_induction run store none false work relatives visited with
  | case1 => exact h
  | case2 relatives visited xref rest hnone ih => exact ih (h.skip (.inl hnone))
  | case3 relatives visited xref rest r hknown hvisited ih =>
    rw [Store.xref_of_record? hknown, List.contains_iff_mem] at hvisited
    exact ih (h.skip (.inr hvisited))
  | case4 relatives visited xref rest r hknown hnew ih =>
    obtain rfl : r.xref = xref := Store.xref_of_record? hknown
    exact ih (h.visit hknown)
  | case5 relatives visited r rest generation later hsettle ih =>
    have hmem : r ∈ relatives.map Relative.record := (List.forall_mem_cons.mp h.sound).1
    have hsame := map_record_settle (h.listed r hmem) h.listed hmem
    rw [hsettle] at hsame
    refine ih ?_
    rw [hsame]
    exact h.expand generation
  | case6 relatives visited spouse generation r rest later hlimit ih =>
    have hchildren : ∀ c ∈ store.children r, store.Listed c := fun c => Store.listed_of_mem_linked
    have hadd : later.map Relative.record =
        relatives.map Relative.record ++
          newIn (relatives.map Relative.record) (store.children r) :=
      Relative.map_record_putAll _ hchildren h.listed
    refine ih ?_
    rw [hadd]
    exact h.gather
  | case7 relatives visited spouse generation r rest later hlimit ih => exact absurd rfl hlimit

end Descent

/-! ## Relatives -/

namespace Store

variable {store : Store} {anchor : String} {person : Record}

theorem filter_of_individual (hperson : store.record? anchor = some person)
    (hkind : person.kind = .individual) :
    (store.record? anchor).filter (·.kind == .individual) = some person := by
  rw [hperson, Option.filter_some, if_pos (by rw [hkind]; rfl)]

theorem put_self (generation : Option Int) :
    Relative.put ⟨person, some 1⟩ [⟨person, generation⟩] = [⟨person, some 1⟩] :=
  if_pos rfl

/-- The search for the direct ancestors, at its end. -/
theorem search_directAncestors (hperson : store.record? anchor = some person)
    (hkind : person.kind = .individual) :
    Search store.IsParent person (store.relativeRecords anchor .directAncestors) [] ∧
      ∀ r ∈ store.relativeRecords anchor .directAncestors, store.Listed r := by
  rw [relativeRecords, relatives, filter_of_individual hperson hkind]
  dsimp only
  rw [Ascent.ofPerson, put_self]
  exact Ascent.search_run (Ascent.matches_start (listed_of_record? hperson)) search_start

/-- The walk to the descendants, at its end. -/
theorem exploring_descendants (hperson : store.record? anchor = some person)
    (hkind : person.kind = .individual) :
    ∃ visited, Descent.Exploring store person [] (store.relativeRecords anchor .descendants)
      visited := by
  rw [relativeRecords, relatives, filter_of_individual hperson hkind]
  dsimp only
  rw [Descent.ofPerson, put_self]
  exact ⟨_, Descent.exploring_run (Descent.exploring_root (listed_of_record? hperson))⟩

/-- **The relatives of a person are those that steps lead to.** Its direct ancestors are the
person and then whoever one or more steps to a parent lead to, each once, and nobody comes
before somebody who is closer. Its descendants are the person and whoever steps to a child lead
to, each once. The links between the records may be any, with cycles and ends that lead
nowhere. -/
theorem relativeRecords_reached (hperson : store.record? anchor = some person)
    (hkind : person.kind = .individual) :
    (∃ above, store.relativeRecords anchor .directAncestors = person :: above ∧
      (∀ r, r ∈ above ↔ r ≠ person ∧ ∃ n, Reached store.IsParent person (n + 1) r) ∧
      ((person :: above).map Record.xref).Nodup ∧
      (person :: above).Pairwise fun a b =>
        distance store.IsParent person a ≤ distance store.IsParent person b) ∧
    (∀ r, r ∈ store.relativeRecords anchor .descendants ↔
      ∃ n, Reached store.IsChild person n r) ∧
    ((store.relativeRecords anchor .descendants).map Record.xref).Nodup := by
  obtain ⟨hsearch, hlisted⟩ := search_directAncestors hperson hkind
  obtain ⟨visited, hexploring⟩ := exploring_descendants hperson hkind
  obtain ⟨above, habove⟩ := hsearch.exists_cons_of_finished
  rw [habove] at hsearch hlisted
  have hnodup := hsearch.nodup
  have hsorted := hsearch.sorted
  rw [List.append_nil] at hnodup hsorted
  refine ⟨⟨above, habove, fun r => ?_, nodup_map_xref hlisted hnodup, hsorted⟩,
    hexploring.mem_iff_of_finished, nodup_map_xref hexploring.listed hexploring.nodup⟩
  -- a cycle may lead back to the person, which stays in front and is not listed again
  have hmem := hsearch.mem_iff_of_finished r
  rw [List.mem_cons] at hmem
  constructor
  · intro hr
    have hne : r ≠ person := by
      rintro rfl
      exact (List.nodup_cons.mp hnodup).1 hr
    obtain ⟨n, hn⟩ := hmem.mp (.inr hr)
    cases n with
    | zero => exact absurd hn.eq_start hne
    | succ n => exact ⟨hne, n, hn⟩
  · rintro ⟨hne, n, hn⟩
    exact (hmem.mpr ⟨n + 1, hn⟩).resolve_left hne

/-- A person that is its own father and its own child, and its mother. -/
def circular : Store where
  records :=
    [⟨"I", .individual, "0 @I@ INDI\n1 FAMC @F@\n1 FAMS @F@"⟩,
      ⟨"F", .family, "0 @F@ FAM\n1 HUSB @I@\n1 WIFE @M@\n1 CHIL @I@"⟩,
      ⟨"M", .individual, "0 @M@ INDI\n1 FAMC @Q@"⟩]

theorem relativeRecords_reached_circular :
    ⟨"M", .individual, "0 @M@ INDI\n1 FAMC @Q@"⟩ ∈ circular.relativeRecords "I" .directAncestors ∧
      ⟨"I", .individual, "0 @I@ INDI\n1 FAMC @F@\n1 FAMS @F@"⟩ ∈
        circular.relativeRecords "I" .descendants := by
  obtain ⟨⟨above, habove, hmem, -⟩, hdescendants, -⟩ :=
    @relativeRecords_reached circular "I"
      ⟨"I", .individual, "0 @I@ INDI\n1 FAMC @F@\n1 FAMS @F@"⟩ (by decide +kernel) rfl
  constructor
  · rw [habove]
    refine List.mem_cons_of_mem _ ((hmem _).mpr ⟨by decide, 0, .next .start ?_⟩)
    exact ⟨⟨"F", .family, "0 @F@ FAM\n1 HUSB @I@\n1 WIFE @M@\n1 CHIL @I@"⟩, by decide +kernel,
      .inr (by decide +kernel)⟩
  · exact (hdescendants _).mpr ⟨0, .start⟩

end Store

end Lineage
