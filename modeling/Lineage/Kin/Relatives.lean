import Lineage.Store.Basic

/-!
# Relatives

The relatives of one person, with the number of their generation. The person
itself is generation 1. Parents are one generation above their child, with the
larger number, when ancestors are looked for; children are one above their
parents when descendants are. A spouse met on the way down gets one less than
the person it is married to.

Links between records may form cycles. Both walks end because a person is
followed at most once: what is left to do shrinks with every person that has
not been visited yet.
-/

namespace Lineage

/-- A record that was found, with its generation if it was given one. -/
structure Relative where
  record : Record
  generation : Option Int
deriving DecidableEq, Repr

namespace Relative

/-- The relative with a cross-reference. -/
def find? (xref : String) (found : List Relative) : Option Relative :=
  List.find? (·.record.xref == xref) found

/-- Puts a relative in the place of one with the same cross-reference, or else
at the end. -/
def put (relative : Relative) : List Relative → List Relative
  | [] => [relative]
  | r :: rest =>
    if r.record.xref = relative.record.xref then relative :: rest else r :: put relative rest

/-- Adds a record without a generation, unless it was found before. -/
def add (record : Record) (found : List Relative) : List Relative :=
  match find? record.xref found with
  | some _ => found
  | none => found ++ [⟨record, none⟩]

/-- Gives all records the same generation. -/
def putAll (generation : Int) (records : List Record) (found : List Relative) : List Relative :=
  records.foldl (fun found record => put ⟨record, some generation⟩ found) found

end Relative

/-- Which relatives are looked for. -/
inductive Kin where
  | childFamily
  | spouseFamily
  | directAncestors
  | ancestors
  | descendants
  | all
deriving DecidableEq, Repr

/-- The group of relatives with a name. -/
def Kin.ofName? : String → Option Kin
  | "child-family" => some childFamily
  | "spouse-family" => some spouseFamily
  | "direct-ancestors" => some directAncestors
  | "ancestors" => some ancestors
  | "descendants" => some descendants
  | "all" => some all
  | _ => none

/-- Whether the walk goes on from a person of a generation. Without a limit it
always does. -/
def withinLimit (limit : Option Int) (generation : Int) : Bool :=
  match limit with
  | none => true
  | some most => generation + 1 < most

namespace Store

/-! ## Records that were not visited yet -/

/-- The number of records that were not visited yet. -/
def unvisited (store : Store) (visited : List String) : Nat :=
  store.records.countP fun record => !visited.contains record.xref

theorem countP_lt_of_imp {α : Type} {p q : α → Bool} {l : List α} {a : α}
    (imp : ∀ b, q b = true → p b = true) (mem : a ∈ l) (hp : p a = true) (hq : q a = false) :
    l.countP q < l.countP p := by
  induction l with
  | nil => cases mem
  | cons b rest ih =>
    have le : rest.countP q ≤ rest.countP p :=
      List.countP_mono_left fun x _ => imp x
    rw [List.countP_cons, List.countP_cons]
    rcases List.mem_cons.1 mem with rfl | h
    · simp only [hp, hq]
      simp
      omega
    · have lt := ih h
      have one : (if q b = true then 1 else 0) ≤ (if p b = true then 1 else 0) := by
        by_cases hb : q b = true
        · simp [hb, imp b hb]
        · simp [hb]
      omega

/-- Visiting a record leaves fewer to visit. -/
theorem unvisited_cons_lt {store : Store} {visited : List String} {record : Record}
    (mem : record ∈ store.records) (new : visited.contains record.xref = false) :
    store.unvisited (record.xref :: visited) < store.unvisited visited := by
  refine countP_lt_of_imp (a := record) ?_ mem ?_ ?_
  · intro b hb
    simp only [List.contains_cons, Bool.not_or, Bool.and_eq_true] at hb
    exact hb.2
  · rw [new]; rfl
  · simp

theorem mem_of_record? {store : Store} {xref : String} {record : Record}
    (h : store.record? xref = some record) : record ∈ store.records :=
  List.mem_of_find?_eq_some h

theorem xref_of_record? {store : Store} {xref : String} {record : Record}
    (h : store.record? xref = some record) : record.xref = xref := by
  simpa using List.find?_some h

theorem mem_of_mem_linked {store : Store} {record linked : Record} {tag : String}
    (h : linked ∈ store.linked record tag) : linked ∈ store.records := by
  obtain ⟨_, _, found⟩ := List.mem_filterMap.1 h
  exact mem_of_record? found

theorem mem_of_mem_spouses {store : Store} {family spouse : Record}
    (h : spouse ∈ store.spouses family) : spouse ∈ store.records := by
  rcases List.mem_append.1 h with h | h
  · exact mem_of_mem_linked (List.mem_of_head? (Option.mem_toList.1 h))
  · exact mem_of_mem_linked (List.mem_of_head? (Option.mem_toList.1 h))

end Store

/-! ## Ancestors -/

/-- A walk up the tree: what was found, the people whose parents are still to
be looked for, and the people met as parents so far. -/
structure Ascent where
  found : List Relative
  queue : List Record
  visited : List String

namespace Ascent

/-- Lines a person up unless it was met before. -/
def enqueue (walk : Ascent) (person : Record) : Ascent :=
  if walk.visited.contains person.xref then walk
  else { walk with queue := walk.queue ++ [person], visited := person.xref :: walk.visited }

/-- What a family of a person of the given generation adds: the parents, whose
own parents follow within the limit, and if wanted the children, who are the
person and its siblings. -/
def addFamily (store : Store) (limit : Option Int) (withSiblings : Bool) (generation : Int)
    (walk : Ascent) (family : Record) : Ascent :=
  let parents := store.spouses family
  let walk := { walk with found := Relative.putAll (generation + 1) parents walk.found }
  let walk := if withinLimit limit generation then parents.foldl enqueue walk else walk
  if withSiblings then
    { walk with found := Relative.putAll generation (store.children family) walk.found }
  else walk

/-- What is left to do: every person in the queue counts once, and every
record that can still join it twice. -/
def measure (store : Store) (walk : Ascent) : Nat :=
  2 * store.unvisited walk.visited + walk.queue.length

theorem measure_enqueue_le (store : Store) (walk : Ascent) {person : Record}
    (mem : person ∈ store.records) : (walk.enqueue person).measure store ≤ walk.measure store := by
  unfold enqueue
  split
  · exact Nat.le_refl _
  · rename_i new
    have lt := Store.unvisited_cons_lt mem (by simpa using new)
    simp only [measure, List.length_append, List.length_singleton]
    omega

theorem measure_foldl_enqueue_le (store : Store) {people : List Record}
    (mem : ∀ person ∈ people, person ∈ store.records) (walk : Ascent) :
    (people.foldl enqueue walk).measure store ≤ walk.measure store := by
  induction people generalizing walk with
  | nil => exact Nat.le_refl _
  | cons person rest ih =>
    refine Nat.le_trans (ih (fun p h => mem p (List.mem_cons_of_mem _ h)) _) ?_
    exact measure_enqueue_le store walk (mem person List.mem_cons_self)

theorem measure_addFamily_le (store : Store) (limit : Option Int) (withSiblings : Bool)
    (generation : Int) (walk : Ascent) (family : Record) :
    (addFamily store limit withSiblings generation walk family).measure store ≤
      walk.measure store := by
  have enqueued (walk : Ascent) :
      (if withinLimit limit generation then (store.spouses family).foldl enqueue walk
        else walk).measure store ≤ walk.measure store := by
    split
    · exact measure_foldl_enqueue_le store (fun _ => Store.mem_of_mem_spouses) walk
    · exact Nat.le_refl _
  unfold addFamily
  dsimp only
  split
  · exact enqueued { walk with found := _ }
  · exact enqueued { walk with found := _ }

theorem measure_foldl_addFamily_le (store : Store) (limit : Option Int) (withSiblings : Bool)
    (generation : Int) (families : List Record) (walk : Ascent) :
    (families.foldl (addFamily store limit withSiblings generation) walk).measure store ≤
      walk.measure store := by
  induction families generalizing walk with
  | nil => exact Nat.le_refl _
  | cons family rest ih =>
    exact Nat.le_trans (ih _) (measure_addFamily_le store limit withSiblings generation walk family)

/-- Follows the queue to its end. A person is in the generation that it was
last found in. -/
def run (store : Store) (limit : Option Int) (withSiblings : Bool) (walk : Ascent) :
    List Relative :=
  match _queued : walk.queue with
  | [] => walk.found
  | person :: rest =>
    let generation := ((Relative.find? person.xref walk.found).bind Relative.generation).getD 1
    run store limit withSiblings
      ((store.childFamilies person).foldl (addFamily store limit withSiblings generation)
        { walk with queue := rest })
termination_by walk.measure store
decreasing_by
  refine Nat.lt_of_le_of_lt (measure_foldl_addFamily_le store _ _ _ _ _) ?_
  simp only [measure, _queued, List.length_cons]
  omega

/-- Adds a person and its ancestors to what was found, generation by
generation. -/
def ofPerson (store : Store) (limit : Option Int) (withSiblings : Bool) (person : Record)
    (found : List Relative) : List Relative :=
  run store limit withSiblings ⟨Relative.put ⟨person, some 1⟩ found, [person], [person.xref]⟩

end Ascent

/-! ## Descendants -/

/-- A task of the walk down the tree: a child that is visited unless it was
before, a person, or a family of a person of the given generation. -/
inductive Descent where
  | child (xref : String)
  | person (record : Record)
  | family (spouse : String) (generation : Int) (record : Record)

namespace Descent

/-- The families of a person as tasks. -/
def families (store : Store) (person : Record) (generation : Int) : List Descent :=
  (store.spouseFamilies person).map (family person.xref generation)

/-- The children of a family as tasks. -/
def children (store : Store) (record : Record) : List Descent :=
  (store.children record).map fun c => child c.xref

/-- How many tasks a list of families stands for, with their children. -/
def familiesWeight (store : Store) : List Record → Nat
  | [] => 0
  | record :: rest => 1 + (store.children record).length + familiesWeight store rest

/-- How many tasks a task leads to, itself included, as long as no child is
visited. -/
def weight (store : Store) : Descent → Nat
  | child _ => 1
  | person record => 1 + familiesWeight store (store.spouseFamilies record)
  | family _ _ record => 1 + (store.children record).length

/-- The weight of a list of tasks. -/
def weights (store : Store) : List Descent → Nat
  | [] => 0
  | task :: rest => weight store task + weights store rest

theorem weights_append (store : Store) (work rest : List Descent) :
    weights store (work ++ rest) = weights store work + weights store rest := by
  induction work with
  | nil => simp [weights]
  | cons task work ih =>
    simp only [List.cons_append, weights, ih]
    omega

theorem weights_map_family (store : Store) (spouse : String) (generation : Int)
    (records : List Record) :
    weights store (records.map (family spouse generation)) = familiesWeight store records := by
  induction records with
  | nil => rfl
  | cons record records ih => simp only [List.map_cons, weights, weight, familiesWeight, ih]

theorem weights_map_child (store : Store) (records : List Record) :
    weights store (records.map fun c => child c.xref) = records.length := by
  induction records with
  | nil => rfl
  | cons record records ih =>
    simp only [List.map_cons, weights, weight, ih, List.length_cons]
    omega

theorem weights_families (store : Store) (record : Record) (generation : Int)
    (rest : List Descent) :
    weights store (families store record generation ++ rest) + 1 =
      weights store (person record :: rest) := by
  rw [weights_append, families, weights_map_family]
  simp only [weights, weight]
  omega

theorem weights_children (store : Store) (spouse : String) (generation : Int) (record : Record)
    (rest : List Descent) :
    weights store (children store record ++ rest) + 1 =
      weights store (family spouse generation record :: rest) := by
  rw [weights_append, children, weights_map_child]
  simp only [weights, weight]
  omega

/-- What a family adds: if wanted the other spouse, one generation below, and
the children, one above. -/
def addFamily (store : Store) (withSpouses : Bool) (spouse : String) (generation : Int)
    (record : Record) (found : List Relative) : List Relative :=
  let others := (store.spouses record).filter (·.xref != spouse)
  let found := if withSpouses then Relative.putAll (generation - 1) others found else found
  Relative.putAll (generation + 1) (store.children record) found

/-- The generation of a person, which is 0 if it has none yet, and what was
found with it. -/
def settle (record : Record) (found : List Relative) : Int × List Relative :=
  let relative := (Relative.find? record.xref found).getD ⟨record, none⟩
  let generation := relative.generation.getD 0
  (generation, Relative.put { relative with generation := some generation } found)

/-- Carries out a list of tasks, the first one and all it leads to before the
next. Gives what was found and who was visited. -/
def run (store : Store) (limit : Option Int) (withSpouses : Bool) (work : List Descent)
    (found : List Relative) (visited : List String) : List Relative × List String :=
  match work with
  | [] => (found, visited)
  | child xref :: rest =>
    match _known : store.record? xref with
    | none => run store limit withSpouses rest found visited
    | some record =>
      if visited.contains record.xref then run store limit withSpouses rest found visited
      else
        run store limit withSpouses (person record :: rest) found (record.xref :: visited)
  | person record :: rest =>
    let (generation, found) := settle record found
    run store limit withSpouses (families store record generation ++ rest) found visited
  | family spouse generation record :: rest =>
    let found := addFamily store withSpouses spouse generation record found
    if withinLimit limit generation then
      run store limit withSpouses (children store record ++ rest) found visited
    else run store limit withSpouses rest found visited
termination_by (store.unvisited visited, weights store work)
decreasing_by
  · apply Prod.Lex.right
    simp only [weights, weight]
    omega
  · apply Prod.Lex.right
    simp only [weights, weight]
    omega
  · rename_i new
    exact Prod.Lex.left _ _ (Store.unvisited_cons_lt (Store.mem_of_record? _known) (by simpa using new))
  · apply Prod.Lex.right
    have := weights_families store record generation rest
    omega
  · apply Prod.Lex.right
    have := weights_children store spouse generation record rest
    omega
  · apply Prod.Lex.right
    simp only [weights, weight]
    omega

/-- Adds the descendants of a person to what was found. -/
def ofPerson (store : Store) (limit : Option Int) (withSpouses : Bool) (root : Record)
    (found : List Relative) : List Relative :=
  (run store limit withSpouses [person root] found [root.xref]).1

end Descent

namespace Store

/-- The members of a family, its spouses first. -/
def members (store : Store) (family : Record) : List Record :=
  store.spouses family ++ store.children family

/-- The members of families, added without a generation. -/
def addMembers (store : Store) (families : List Record) (found : List Relative) : List Relative :=
  (families.flatMap store.members).foldl (fun found record => Relative.add record found) found

/-- The relatives of the person with a cross-reference, in the order in which
they are found; nobody when there is no such person. -/
def relatives (store : Store) (anchor : String) (kin : Kin) (limit : Option Int) :
    List Relative :=
  match (store.record? anchor).filter (·.kind == .individual) with
  | none => []
  | some person =>
    let found := [⟨person, none⟩]
    match kin with
    | .childFamily => store.addMembers (store.childFamilies person) found
    | .spouseFamily => store.addMembers (store.spouseFamilies person) found
    | .directAncestors => Ascent.ofPerson store limit false person found
    | .ancestors => Ascent.ofPerson store limit true person found
    | .descendants =>
      Descent.ofPerson store limit false person (Relative.put ⟨person, some 1⟩ found)
    | .all => Descent.ofPerson store limit true person (Ascent.ofPerson store limit true person found)

end Store

end Lineage
