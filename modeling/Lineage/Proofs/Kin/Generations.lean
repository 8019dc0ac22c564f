import Lineage.Kin.Generation
import Lineage.Proofs.Kin.Found

/-!
# The generations that are counted

Both walks number whom they find from the person that they go on from: one more for a
step to the next generation, the same for a step aside. What is known of a number when it
is given stays known, whatever is overwritten later and in whatever order the walk goes
(`LeadsOn`). No number is larger than the number of people the walk has gone on from, and
one.
-/

namespace Lineage

open Kin

namespace Kin

/-- **What is known of the numbers that somebody gives**, who has the number `n` when the walk
goes on from it: they are good, and whoever the walk is to go on from is ready. -/
structure LeadsOn {α : Type} (step aside : α → α → Prop) (limit : Option Int)
    (good : Nat → α → Prop) (ready : α → Prop) (n : Nat) (a : α) : Prop where
  next : ∀ b, step a b → good (n + 1) b
  level : ∀ b, aside a b → good n b
  follow : withinLimit limit n → ∀ b, step a b → ready b

end Kin

/-- What is known of a relative that was found, when so many people are left to go on from. -/
structure Relative.Known (store : Store) (good : Nat → Record → Prop) (left : Nat)
    (relative : Relative) : Prop where
  listed : store.Listed relative.record
  numbered : ∃ n : Nat, relative.generation = some (n : Int) ∧ good n relative.record ∧
    n + left ≤ store.records.length + 1

namespace Relative

variable {store : Store} {good : Nat → Record → Prop} {left less : Nat} {relative : Relative}
  {found : List Relative}

theorem Known.mono (h : relative.Known store good left) (hless : less ≤ left) :
    relative.Known store good less := by
  obtain ⟨n, hn, hgood, hle⟩ := h.numbered
  exact ⟨h.listed, n, hn, hgood, by omega⟩

theorem forall_listed (h : ∀ relative ∈ found, relative.Known store good left) :
    ∀ r ∈ found.map Relative.record, store.Listed r := by
  intro r hr
  obtain ⟨relative, hrelative, rfl⟩ := List.mem_map.mp hr
  exact (h relative hrelative).listed

/-- Records that are put in a generation are known if the number is good for each of them. -/
theorem known_putAll (h : ∀ relative ∈ found, relative.Known store good left) {n : Nat}
    {records : List Record} (hlisted : ∀ r ∈ records, store.Listed r)
    (hgood : ∀ r ∈ records, good n r) (hleft : n + left ≤ store.records.length + 1) :
    ∀ relative ∈ putAll (n : Int) records found, relative.Known store good left := by
  intro relative hrelative
  rcases mem_or_eq_of_mem_putAll hrelative with hold | ⟨record, hrecord, rfl⟩
  · exact h relative hold
  · exact ⟨hlisted record hrecord, n, rfl, hgood record hrecord, hleft⟩

/-- Whoever was found is read back with a number that is known. -/
theorem Known.find? (h : ∀ relative ∈ found, relative.Known store good left) {record : Record}
    (hrecord : record ∈ found.map Relative.record) :
    ∃ n : Nat, Relative.find? record.xref found = some ⟨record, some (n : Int)⟩ ∧ good n record ∧
      n + left ≤ store.records.length + 1 := by
  obtain ⟨⟨r, generation⟩, hmem, rfl, hfind⟩ := exists_find? (forall_listed h) hrecord
  obtain ⟨n, hn, hgood, hle⟩ := (h _ hmem).numbered
  dsimp only at hn hgood
  exact ⟨n, by rw [hfind, hn], hgood, hle⟩

/-- Nobody is lost when others are put among those found. -/
theorem mem_map_record_putAll {records : List Record} (generation : Int)
    (hrecords : ∀ r ∈ records, store.Listed r)
    (hfound : ∀ r ∈ found.map Relative.record, store.Listed r) {record : Record} :
    record ∈ (putAll generation records found).map Relative.record ↔
      record ∈ found.map Relative.record ∨ record ∈ records := by
  rw [map_record_putAll generation hrecords hfound, mem_append_newIn]

end Relative

/-- There are fewer records to visit than records when one has been visited. -/
theorem Store.unvisited_singleton_lt {store : Store} {record : Record}
    (hlisted : store.Listed record) :
    store.unvisited [record.xref] < store.records.length :=
  Nat.lt_of_lt_of_le (unvisited_cons_lt (mem_of_record? hlisted) rfl) List.countP_le_length

/-! ## Ancestors -/

namespace Ascent

variable {store : Store} {limit : Option Int} {withSiblings : Bool}
  {aside : Record → Record → Prop} {good : Nat → Record → Prop} {ready : Record → Prop}
  {walk : Ascent} {person : Record} {n : Nat}

/-- How many people are left to go on from: those in the queue and those that can still join
it. -/
def left (store : Store) (walk : Ascent) : Nat :=
  walk.queue.length + store.unvisited walk.visited

/-- **A walk up whose numbers are known.** Everybody in the queue has been found. -/
structure Sound (store : Store) (good : Nat → Record → Prop) (ready : Record → Prop)
    (walk : Ascent) : Prop where
  known : ∀ relative ∈ walk.found, relative.Known store good (walk.left store)
  queued : ∀ r ∈ walk.queue, r ∈ walk.found.map Relative.record
  ready : ∀ r ∈ walk.queue, ready r

theorem left_enqueue_le (hperson : person ∈ store.records) :
    (walk.enqueue person).left store ≤ walk.left store := by
  rw [enqueue]
  by_cases hmet : walk.visited.contains person.xref
  · rw [if_pos hmet]
  · have hlt := Store.unvisited_cons_lt hperson (Bool.eq_false_of_not_eq_true hmet)
    rw [if_neg hmet]
    show (walk.queue ++ [person]).length + store.unvisited (person.xref :: walk.visited) ≤
      walk.queue.length + store.unvisited walk.visited
    rw [List.length_append, List.length_singleton]
    omega

theorem found_enqueue : (walk.enqueue person).found = walk.found := by
  rw [enqueue]
  split <;> rfl

theorem mem_queue_enqueue {r : Record} (h : r ∈ (walk.enqueue person).queue) :
    r ∈ walk.queue ∨ r = person := by
  rw [enqueue] at h
  by_cases hmet : walk.visited.contains person.xref
  · rw [if_pos hmet] at h
    exact .inl h
  · rw [if_neg hmet, List.mem_append, List.mem_singleton] at h
    exact h

/-- Somebody who was found can be lined up. -/
theorem Sound.enqueue (h : Sound store good ready walk)
    (hfound : person ∈ walk.found.map Relative.record) (hready : ready person) :
    Sound store good ready (walk.enqueue person) ∧
      (walk.enqueue person).left store ≤ walk.left store := by
  have hlisted := Relative.forall_listed h.known person hfound
  have hleft : (walk.enqueue person).left store ≤ walk.left store :=
    left_enqueue_le (Store.mem_of_record? hlisted)
  refine ⟨⟨fun relative hrelative => ?_, fun r hr => ?_, fun r hr => ?_⟩, hleft⟩
  · rw [found_enqueue] at hrelative
    exact (h.known relative hrelative).mono hleft
  · rw [found_enqueue]
    rcases mem_queue_enqueue hr with hr | rfl
    · exact h.queued r hr
    · exact hfound
  · rcases mem_queue_enqueue hr with hr | rfl
    · exact h.ready r hr
    · exact hready

theorem Sound.enqueueAll (h : Sound store good ready walk) {people : List Record}
    (hfound : ∀ r ∈ people, r ∈ walk.found.map Relative.record) (hready : ∀ r ∈ people, ready r) :
    Sound store good ready (people.foldl Ascent.enqueue walk) ∧
      (people.foldl Ascent.enqueue walk).left store ≤ walk.left store := by
  induction people generalizing walk with
  | nil => exact ⟨h, Nat.le_refl _⟩
  | cons person rest ih =>
    rw [List.forall_mem_cons] at hfound hready
    rw [List.foldl_cons]
    obtain ⟨hsound, hleft⟩ := h.enqueue hfound.1 hready.1
    obtain ⟨hsound', hleft'⟩ := ih hsound (by rw [found_enqueue]; exact hfound.2) hready.2
    exact ⟨hsound', Nat.le_trans hleft' hleft⟩

/-- Records can be put in a generation that is good for them. -/
theorem Sound.putAll (h : Sound store good ready walk) {records : List Record}
    (hlisted : ∀ r ∈ records, store.Listed r) (hgood : ∀ r ∈ records, good n r)
    (hleft : n + walk.left store ≤ store.records.length + 1) :
    Sound store good ready { walk with found := Relative.putAll (n : Int) records walk.found } where
  known := Relative.known_putAll h.known hlisted hgood hleft
  queued r hr := by
    rw [Relative.mem_map_record_putAll (n : Int) hlisted (Relative.forall_listed h.known)]
    exact .inl (h.queued r hr)
  ready := h.ready

/-- The walk when the parents of a family are in the next generation and, within the limit, have
been lined up. -/
def addParents (store : Store) (limit : Option Int) (generation : Int) (walk : Ascent)
    (family : Record) : Ascent :=
  let walk :=
    { walk with found := Relative.putAll (generation + 1) (store.spouses family) walk.found }
  if withinLimit limit generation then (store.spouses family).foldl enqueue walk else walk

/-- The parents of a family come first, then, if wanted, its children. -/
theorem addFamily_eq (store : Store) (limit : Option Int) (withSiblings : Bool) (generation : Int)
    (walk : Ascent) (family : Record) :
    addFamily store limit withSiblings generation walk family =
      let walk := addParents store limit generation walk family
      if withSiblings then
        { walk with found := Relative.putAll generation (store.children family) walk.found }
      else walk :=
  rfl

theorem Sound.addParents (h : Sound store good ready walk)
    (hleads : LeadsOn store.IsParent aside limit good ready n person) {family : Record}
    (hfamily : family ∈ store.childFamilies person)
    (hleft : n + 1 + walk.left store ≤ store.records.length + 1) :
    Sound store good ready (Ascent.addParents store limit n walk family) ∧
      (Ascent.addParents store limit n walk family).left store ≤ walk.left store := by
  have hlisted : ∀ r ∈ store.spouses family, store.Listed r :=
    fun r => Store.listed_of_mem_spouses
  have hparent : ∀ r ∈ store.spouses family, store.IsParent person r :=
    fun r hr => ⟨family, hfamily, Store.mem_spouses.mp hr⟩
  have hput : Sound store good ready
      { walk with found := Relative.putAll ((n : Int) + 1) (store.spouses family) walk.found } :=
    h.putAll hlisted (fun r hr => hleads.next r (hparent r hr)) hleft
  rw [Ascent.addParents]
  by_cases hlimit : withinLimit limit n
  · rw [if_pos hlimit]
    refine hput.enqueueAll (fun r hr => ?_) fun r hr => hleads.follow hlimit r (hparent r hr)
    rw [Relative.mem_map_record_putAll _ hlisted (Relative.forall_listed h.known)]
    exact .inr hr
  · rw [if_neg hlimit]
    exact ⟨hput, Nat.le_refl _⟩

/-- **One family of a person keeps what is known.** -/
theorem Sound.addFamily (h : Sound store good ready walk)
    (haside : withSiblings = true → ∀ a b, store.IsSibling a b → aside a b)
    (hleads : LeadsOn store.IsParent aside limit good ready n person) {family : Record}
    (hfamily : family ∈ store.childFamilies person)
    (hleft : n + 1 + walk.left store ≤ store.records.length + 1) :
    Sound store good ready (Ascent.addFamily store limit withSiblings n walk family) ∧
      (Ascent.addFamily store limit withSiblings n walk family).left store ≤ walk.left store := by
  obtain ⟨hparents, hless⟩ := h.addParents hleads hfamily hleft
  rw [addFamily_eq]
  by_cases hwith : withSiblings = true
  · rw [if_pos hwith]
    refine ⟨hparents.putAll (fun r => Store.listed_of_mem_linked) (fun r hr => ?_) (by omega), hless⟩
    exact hleads.level r (haside hwith person r ⟨family, hfamily, hr⟩)
  · rw [if_neg hwith]
    exact ⟨hparents, hless⟩

theorem Sound.addFamilies (h : Sound store good ready walk)
    (haside : withSiblings = true → ∀ a b, store.IsSibling a b → aside a b)
    (hleads : LeadsOn store.IsParent aside limit good ready n person) {families : List Record}
    (hfamilies : ∀ family ∈ families, family ∈ store.childFamilies person)
    (hleft : n + 1 + walk.left store ≤ store.records.length + 1) :
    Sound store good ready (families.foldl (Ascent.addFamily store limit withSiblings n) walk) := by
  induction families generalizing walk with
  | nil => exact h
  | cons family rest ih =>
    rw [List.forall_mem_cons] at hfamilies
    obtain ⟨hsound, hless⟩ := h.addFamily haside hleads hfamilies.1 hleft
    exact ih hsound hfamilies.2 (by omega)

/-- The walk goes on from the person at the head of the queue, whose number is read back. -/
theorem Sound.pop {rest : List Record} (h : Sound store good ready walk)
    (hqueue : walk.queue = person :: rest) :
    Sound store good ready { walk with queue := rest } ∧ ready person ∧
      ∃ n : Nat, ((Relative.find? person.xref walk.found).bind Relative.generation).getD 1 = n ∧
        good n person ∧
        n + 1 + ({ walk with queue := rest } : Ascent).left store ≤ store.records.length + 1 := by
  have hhead : person ∈ walk.queue := hqueue ▸ List.mem_cons_self
  have hrest : ∀ r ∈ rest, r ∈ walk.queue := fun r hr => hqueue ▸ List.mem_cons_of_mem _ hr
  have hleft : walk.left store = ({ walk with queue := rest } : Ascent).left store + 1 := by
    show walk.queue.length + store.unvisited walk.visited =
      rest.length + store.unvisited walk.visited + 1
    rw [hqueue, List.length_cons]
    omega
  obtain ⟨n, hfind, hgood, hle⟩ := Relative.Known.find? h.known (h.queued person hhead)
  refine ⟨⟨fun relative hrelative => ?_, fun r hr => ?_, fun r hr => ?_⟩, h.ready person hhead,
    n, by rw [hfind]; rfl, hgood, by omega⟩
  · exact (h.known relative hrelative).mono (by omega)
  · exact h.queued r (hrest r hr)
  · exact h.ready r (hrest r hr)

/-- **What is known of the numbers is known at the end of the walk up.** -/
theorem known_run (haside : withSiblings = true → ∀ a b, store.IsSibling a b → aside a b)
    (hleads : ∀ n a, ready a → good n a → LeadsOn store.IsParent aside limit good ready n a)
    (h : Sound store good ready walk) :
    ∀ relative ∈ run store limit withSiblings walk, relative.Known store good 0 := by
  fun_induction run store limit withSiblings walk with
  | case1 walk hqueue =>
    intro relative hrelative
    exact (h.known relative hrelative).mono (Nat.zero_le _)
  | case2 walk person rest hqueue generation ih =>
    obtain ⟨hpopped, hready, n, hread, hgood, hleft⟩ := h.pop hqueue
    have hgeneration : generation = n := hread
    rw [hgeneration] at ih ⊢
    exact ih (hpopped.addFamilies haside (hleads n person hready hgood) (fun _ h => h) hleft)

/-- The walk starts with the families of the person. -/
theorem ofPerson_eq (store : Store) (limit : Option Int) (withSiblings : Bool) (person : Record) :
    ofPerson store limit withSiblings person [⟨person, none⟩] =
      run store limit withSiblings
        ((store.childFamilies person).foldl (addFamily store limit withSiblings 1)
          ⟨[⟨person, some 1⟩], [], [person.xref]⟩) := by
  have hfind : Relative.find? person.xref [⟨person, some 1⟩] = some ⟨person, some 1⟩ := by
    rw [Relative.find?_cons, if_pos rfl]
  rw [ofPerson, Store.put_self, run]
  dsimp only
  rw [hfind]
  rfl

/-- **What is known of the numbers is known of all ancestors** if it is of what the person
itself leads to. -/
theorem known_ofPerson (haside : withSiblings = true → ∀ a b, store.IsSibling a b → aside a b)
    (hleads : ∀ n a, ready a → good n a → LeadsOn store.IsParent aside limit good ready n a)
    (hlisted : store.Listed person) (hgood : good 1 person)
    (hfirst : LeadsOn store.IsParent aside limit good ready 1 person) :
    ∀ relative ∈ ofPerson store limit withSiblings person [⟨person, none⟩],
      relative.Known store good 0 := by
  have hleft : store.unvisited [person.xref] + 1 ≤ store.records.length :=
    Store.unvisited_singleton_lt hlisted
  have hsound : Sound store good ready ⟨[⟨person, some 1⟩], [], [person.xref]⟩ := by
    refine ⟨List.forall_mem_singleton.mpr ⟨hlisted, 1, rfl, hgood, ?_⟩, nofun, nofun⟩
    show 1 + ([].length + store.unvisited [person.xref]) ≤ _
    rw [List.length_nil]
    omega
  rw [ofPerson_eq]
  refine known_run haside hleads (hsound.addFamilies haside hfirst (fun _ h => h) ?_)
  show 1 + 1 + ([].length + store.unvisited [person.xref]) ≤ _
  rw [List.length_nil]
  omega

end Ascent

/-! ## Descendants -/

namespace Descent

variable {store : Store} {limit : Option Int} {aside : Record → Record → Prop}
  {good : Nat → Record → Prop} {ready : Record → Prop} {work rest : List Descent}
  {found : List Relative} {visited : List String} {r : Record} {n : Nat} {task : Descent}

/-- Whether a task is to go on from a person. -/
def isPerson : Descent → Bool
  | person _ => true
  | _ => false

/-- How many people are left to go on from: those that are next and those that can still be
visited. -/
def left (store : Store) (work : List Descent) (visited : List String) : Nat :=
  work.countP isPerson + store.unvisited visited

theorem left_person (store : Store) (r : Record) (rest : List Descent) (visited : List String) :
    left store (person r :: rest) visited = left store rest visited + 1 := by
  rw [left, left, List.countP_cons_of_pos rfl]
  omega

/-- Tasks that are not people leave as many to go on from. -/
theorem left_map (store : Store) {task : Record → Descent} (htask : ∀ r, isPerson (task r) = false)
    (records : List Record) (rest : List Descent) (visited : List String) :
    left store (records.map task ++ rest) visited = left store rest visited := by
  have hnone : (records.map task).countP isPerson = 0 := by
    rw [List.countP_eq_zero, List.forall_mem_map]
    exact fun r _ => Bool.not_eq_true _ ▸ htask r
  rw [left, left, List.countP_append, hnone, Nat.zero_add]

theorem left_tail_le (store : Store) (task : Descent) (rest : List Descent)
    (visited : List String) : left store rest visited ≤ left store (task :: rest) visited := by
  rw [left, left, List.countP_cons]
  omega

/-- What is known of a task: that a child or a person has been found and is ready, and of a
family what its children may rely on. -/
def Known (store : Store) (limit : Option Int) (good : Nat → Record → Prop)
    (ready : Record → Prop) (left : Nat) (found : List Relative) : Descent → Prop
  | child xref => ∀ r, store.record? xref = some r → r ∈ found.map Relative.record ∧ ready r
  | person r => r ∈ found.map Relative.record ∧ ready r
  | family _ generation record => ∃ n : Nat, generation = n ∧
      n + 1 + left ≤ store.records.length + 1 ∧ ∀ b ∈ store.children record,
        good (n + 1) b ∧ (withinLimit limit n → ready b)

/-- **A walk down whose numbers are known.** -/
structure Tallied (store : Store) (limit : Option Int) (good : Nat → Record → Prop)
    (ready : Record → Prop) (work : List Descent) (found : List Relative)
    (visited : List String) : Prop where
  known : ∀ relative ∈ found, relative.Known store good (left store work visited)
  tasks : ∀ task ∈ work, task.Known store limit good ready (left store work visited) found

theorem Known.mono {less left : Nat} {more : List Relative}
    (h : task.Known store limit good ready left found) (hless : less ≤ left)
    (hmore : ∀ r ∈ found.map Relative.record, r ∈ more.map Relative.record) :
    task.Known store limit good ready less more := by
  cases task with
  | child xref => exact fun r hr => (h r hr).imp_left (hmore r)
  | person r => exact h.imp_left (hmore r)
  | family spouse generation record =>
    obtain ⟨n, hn, hle, hchildren⟩ := h
    exact ⟨n, hn, by omega, hchildren⟩

/-- Without spouses a family only puts its children in the next generation. -/
theorem addFamily_children (store : Store) (spouse : String) (n : Nat) (record : Record)
    (found : List Relative) :
    addFamily store false spouse n record found =
      Relative.putAll ((n + 1 : Nat) : Int) (store.children record) found :=
  rfl

namespace Tallied

/-- A task that nobody is waiting for can be left out. -/
theorem tail (h : Tallied store limit good ready (task :: rest) found visited) :
    Tallied store limit good ready rest found visited := by
  have hless := left_tail_le store task rest visited
  refine ⟨fun relative hrelative => (h.known relative hrelative).mono hless, fun t ht => ?_⟩
  exact (h.tasks t (List.mem_cons_of_mem _ ht)).mono hless fun _ => id

/-- A child that has not been visited becomes the person that is next. -/
theorem visit (h : Tallied store limit good ready (child r.xref :: rest) found visited)
    (hr : store.record? r.xref = some r) (hnew : visited.contains r.xref = false) :
    Tallied store limit good ready (person r :: rest) found (r.xref :: visited) := by
  have hless : left store (person r :: rest) (r.xref :: visited) ≤
      left store (child r.xref :: rest) visited := by
    have hlt := Store.unvisited_cons_lt (Store.mem_of_record? hr) hnew
    have htail := left_tail_le store (child r.xref) rest visited
    rw [left_person, left]
    rw [left] at htail
    omega
  refine ⟨fun relative hrelative => (h.known relative hrelative).mono hless, ?_⟩
  refine List.forall_mem_cons.mpr ⟨h.tasks _ List.mem_cons_self r hr, fun t ht => ?_⟩
  exact (h.tasks t (List.mem_cons_of_mem _ ht)).mono hless fun _ => id

/-- The person that is next is read back with its number. -/
theorem settle (h : Tallied store limit good ready (person r :: rest) found visited) :
    ∃ n : Nat, Descent.settle r found = ((n : Int), found) ∧ good n r ∧ ready r ∧
      n + 1 + left store rest visited ≤ store.records.length + 1 := by
  obtain ⟨hfound, hready⟩ := h.tasks _ List.mem_cons_self
  obtain ⟨n, hfind, hgood, hle⟩ := Relative.Known.find? h.known hfound
  rw [left_person] at hle
  refine ⟨n, ?_, hgood, hready, by omega⟩
  rw [Descent.settle, hfind]
  exact Prod.ext rfl (Relative.put_of_find? hfind)

/-- The families of a person become tasks. -/
theorem expand (h : Tallied store limit good ready rest found visited) (spouse : Record)
    (hleads : LeadsOn store.IsChild aside limit good ready n spouse)
    (hleft : n + 1 + left store rest visited ≤ store.records.length + 1) :
    Tallied store limit good ready (families store spouse n ++ rest) found visited := by
  have hsame : left store (families store spouse n ++ rest) visited = left store rest visited :=
    left_map store (fun _ => rfl) (store.spouseFamilies spouse) rest visited
  refine ⟨hsame ▸ h.known, List.forall_mem_append.mpr ⟨fun t ht => ?_, hsame ▸ h.tasks⟩⟩
  obtain ⟨record, hrecord, rfl⟩ := List.mem_map.mp ht
  refine ⟨n, rfl, hsame ▸ hleft, fun b hb => ?_⟩
  have hchild : store.IsChild spouse b := ⟨record, hrecord, hb⟩
  exact ⟨hleads.next b hchild, fun hlimit => hleads.follow hlimit b hchild⟩

/-- The children of a family are put in the next generation. -/
theorem gather {spouse : String} {generation : Int} {record : Record}
    (h : Tallied store limit good ready (family spouse generation record :: rest) found visited) :
    Tallied store limit good ready rest
      (addFamily store false spouse generation record found) visited := by
  obtain ⟨n, rfl, hle, hchildren⟩ := h.tasks _ List.mem_cons_self
  have hlisted : ∀ r ∈ store.children record, store.Listed r :=
    fun r => Store.listed_of_mem_linked
  have hrest := h.tail
  have hless := left_tail_le store (family spouse n record) rest visited
  rw [addFamily_children]
  refine ⟨Relative.known_putAll hrest.known hlisted (fun r hr => (hchildren r hr).1) (by omega), ?_⟩
  intro t ht
  refine (hrest.tasks t ht).mono (Nat.le_refl _) fun r hr => ?_
  rw [Relative.mem_map_record_putAll _ hlisted (Relative.forall_listed hrest.known)]
  exact .inl hr

/-- Within the limit the children of a family become tasks. -/
theorem follow {spouse : String} {generation : Int} {record : Record}
    (h : Tallied store limit good ready (family spouse generation record :: rest) found visited)
    (hlimit : withinLimit limit generation = true) :
    Tallied store limit good ready (children store record ++ rest)
      (addFamily store false spouse generation record found) visited := by
  obtain ⟨n, rfl, hle, hchildren⟩ := h.tasks _ List.mem_cons_self
  have hgathered := h.gather
  have hsame : left store (children store record ++ rest) visited = left store rest visited :=
    left_map store (fun _ => rfl) (store.children record) rest visited
  refine ⟨hsame ▸ hgathered.known,
    List.forall_mem_append.mpr ⟨fun t ht => ?_, hsame ▸ hgathered.tasks⟩⟩
  obtain ⟨c, hc, rfl⟩ := List.mem_map.mp ht
  intro r hr
  have hlisted : ∀ r ∈ store.children record, store.Listed r :=
    fun r => Store.listed_of_mem_linked
  obtain rfl : c = r :=
    (hlisted c hc).eq_of_xref (Store.listed_of_record? hr) (Store.xref_of_record? hr).symm
  refine ⟨?_, (hchildren c hc).2 hlimit⟩
  rw [addFamily_children, Relative.mem_map_record_putAll _ hlisted (Relative.forall_listed h.known)]
  exact .inr hc

end Tallied

/-- **What is known of the numbers is known at the end of the walk down.** -/
theorem known_run
    (hleads : ∀ n a, ready a → good n a → LeadsOn store.IsChild aside limit good ready n a)
    (h : Tallied store limit good ready work found visited) :
    ∀ relative ∈ (run store limit false work found visited).1, relative.Known store good 0 := by
  fun_induction run store limit false work found visited with
  | case1 =>
    intro relative hrelative
    exact (h.known relative hrelative).mono (Nat.zero_le _)
  | case2 found visited xref rest hnone ih => exact ih h.tail
  | case3 found visited xref rest r hknown hvisited ih => exact ih h.tail
  | case4 found visited xref rest r hknown hnew ih =>
    obtain rfl : r.xref = xref := Store.xref_of_record? hknown
    exact ih (h.visit hknown (Bool.eq_false_of_not_eq_true hnew))
  | case5 found visited r rest generation later hsettle ih =>
    obtain ⟨n, hsame, hgood, hready, hleft⟩ := h.settle
    rw [hsettle, Prod.mk.injEq] at hsame
    obtain ⟨rfl, rfl⟩ := hsame
    exact ih (h.tail.expand r (hleads n r hready hgood) hleft)
  | case6 found visited spouse generation r rest later hlimit ih => exact ih (h.follow hlimit)
  | case7 found visited spouse generation r rest later hlimit ih => exact ih h.gather

/-- The walk starts with the families of the person. -/
theorem ofPerson_eq (store : Store) (limit : Option Int) (root : Record) :
    ofPerson store limit false root [⟨root, some 1⟩] =
      (run store limit false (families store root 1) [⟨root, some 1⟩] [root.xref]).1 := by
  have hfind : Relative.find? root.xref [⟨root, some 1⟩] = some ⟨root, some 1⟩ := by
    rw [Relative.find?_cons, if_pos rfl]
  have hsettle : settle root [⟨root, some 1⟩] = (1, [⟨root, some 1⟩]) := by
    rw [settle, hfind]
    exact Prod.ext rfl (Relative.put_of_find? hfind)
  rw [ofPerson, run, hsettle]
  dsimp only
  rw [List.append_nil]

/-- **What is known of the numbers is known of all descendants** if it is of what the person
itself leads to. -/
theorem known_ofPerson
    (hleads : ∀ n a, ready a → good n a → LeadsOn store.IsChild aside limit good ready n a)
    (hlisted : store.Listed r) (hgood : good 1 r)
    (hfirst : LeadsOn store.IsChild aside limit good ready 1 r) :
    ∀ relative ∈ ofPerson store limit false r [⟨r, some 1⟩], relative.Known store good 0 := by
  have hunvisited : store.unvisited [r.xref] + 1 ≤ store.records.length :=
    Store.unvisited_singleton_lt hlisted
  have hleft : left store [] [r.xref] = store.unvisited [r.xref] := by
    rw [left, List.countP_nil, Nat.zero_add]
  have htallied : Tallied store limit good ready [] [⟨r, some 1⟩] [r.xref] :=
    ⟨List.forall_mem_singleton.mpr ⟨hlisted, 1, rfl, hgood, by omega⟩, nofun⟩
  have hstart := htallied.expand r hfirst (by omega)
  rw [List.append_nil] at hstart
  rw [ofPerson_eq]
  exact known_run hleads hstart

end Descent

/-! ## Relatives -/

namespace Store

variable {store : Store} {anchor : String} {person : Record} {kin : Kin} {limit : Option Int}
  {good : Nat → Record → Prop} {ready : Record → Prop} {relative : Relative}

/-- Only an individual has relatives. -/
theorem exists_of_mem_relatives (h : relative ∈ store.relatives anchor kin limit) :
    ∃ person, store.record? anchor = some person ∧ person.kind = .individual := by
  rw [relatives] at h
  cases hperson : (store.record? anchor).filter (·.kind == .individual) with
  | none =>
    rw [hperson] at h
    cases h
  | some person =>
    obtain ⟨hfound, hkind⟩ := Option.filter_eq_some_iff.mp hperson
    exact ⟨person, hfound, beq_iff_eq.mp hkind⟩

/-- **What is known of the numbers is known of all relatives** that are counted. -/
theorem known_relatives (hkin : kin ∈ [Kin.directAncestors, Kin.ancestors, Kin.descendants])
    (hperson : store.record? anchor = some person) (hkind : person.kind = .individual)
    (hleads : ∀ n a, ready a → good n a →
      LeadsOn (store.IsNext kin) (store.IsAside kin) limit good ready n a)
    (hgood : good 1 person)
    (hfirst : LeadsOn (store.IsNext kin) (store.IsAside kin) limit good ready 1 person) :
    ∀ relative ∈ store.relatives anchor kin limit, relative.Known store good 0 := by
  have hlisted : store.Listed person := listed_of_record? hperson
  rw [relatives, filter_of_individual hperson hkind]
  simp only [List.mem_cons, List.not_mem_nil, or_false] at hkin
  rcases hkin with rfl | rfl | rfl
  · exact Ascent.known_ofPerson (fun h => absurd h Bool.false_ne_true) hleads hlisted hgood hfirst
  · exact Ascent.known_ofPerson (fun _ _ _ h => ⟨rfl, h⟩) hleads hlisted hgood hfirst
  · dsimp only
    rw [put_self]
    exact Descent.known_ofPerson hleads hlisted hgood hfirst

/-- Whoever goes on from a number that counts steps gives numbers that count steps. -/
theorem leadsOn_countsSteps (hkin : kin = .directAncestors ∨ kin = .descendants) (limit : Option Int)
    {n : Nat} {a : Record} (h : CountsSteps (store.IsNext kin) person n a) :
    LeadsOn (store.IsNext kin) (store.IsAside kin) limit (CountsSteps (store.IsNext kin) person)
      (fun _ => True) n a := by
  obtain ⟨k, rfl, hreached⟩ := h
  refine ⟨fun b hstep => ⟨k + 1, rfl, hreached.next hstep⟩, fun b haside => ?_, fun _ _ _ => trivial⟩
  -- nobody is beside a direct ancestor or a descendant
  obtain ⟨rfl, -⟩ := haside
  rcases hkin with hkin | hkin <;> cases hkin

theorem countsSteps_start (step : Record → Record → Prop) (start : Record) :
    CountsSteps step start 1 start :=
  ⟨0, rfl, .start⟩

/-- **Every number has a chain of steps.** Each of the direct ancestors and of the descendants has
a number, within any limit, and a chain of exactly one step less leads to it from the person:
steps to a parent or to a child. Where all chains have the same length the number is that
length and one. The links may be any, also circular, and no number exceeds that of the records
by more than one. -/
theorem generation_of_chain (hkin : kin = .directAncestors ∨ kin = .descendants)
    (h : relative ∈ store.relatives anchor kin limit) :
    ∃ (person : Record) (n : Nat), store.record? anchor = some person ∧
      relative.generation = some ((n : Int) + 1) ∧
      Reached (store.IsNext kin) person n relative.record ∧ n ≤ store.records.length ∧
      ∀ m : Nat, (∀ k, Reached (store.IsNext kin) person k relative.record → k = m) →
        relative.generation = some ((m : Int) + 1) := by
  obtain ⟨person, hperson, hkind⟩ := exists_of_mem_relatives h
  have hmem : kin ∈ [Kin.directAncestors, Kin.ancestors, Kin.descendants] := by
    rcases hkin with rfl | rfl <;> decide
  have hstart := countsSteps_start (store.IsNext kin) person
  have hknown := known_relatives hmem hperson hkind
    (fun n a _ ha => leadsOn_countsSteps hkin limit ha) hstart
    (leadsOn_countsSteps hkin limit hstart) relative h
  obtain ⟨_, hn, ⟨n, rfl, hreached⟩, hle⟩ := hknown.numbered
  refine ⟨person, n, hperson, hn, hreached, by omega, fun m hm => ?_⟩
  rw [hn, hm n hreached]
  rfl

/-- The mother of a man who is his own father is numbered by the one step to her. -/
theorem generation_of_chain_circular :
    ⟨⟨"M", .individual, "0 @M@ INDI\n1 FAMC @Q@"⟩, some 2⟩ ∈
        circular.relatives "I" .directAncestors none ∧
      ∃ person, circular.record? "I" = some person ∧
        Reached circular.IsParent person 1 ⟨"M", .individual, "0 @M@ INDI\n1 FAMC @Q@"⟩ := by
  have hmem : ⟨⟨"M", .individual, "0 @M@ INDI\n1 FAMC @Q@"⟩, some 2⟩ ∈
      circular.relatives "I" .directAncestors none := by decide +kernel
  obtain ⟨person, n, hperson, hn, hreached, -⟩ :=
    generation_of_chain (.inl rfl) hmem
  have hone : n = 1 := by
    rw [Option.some_inj] at hn
    omega
  exact ⟨hmem, person, hperson, hone ▸ hreached⟩

end Store

end Lineage
