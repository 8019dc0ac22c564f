import Mathlib.Data.List.Forall2
import Lineage.Document.Arena

/-!
# What the operations on an arena do

An arena is looked at in three ways: how many elements it has (`Arena.size`),
which element a number stands for (`Arena.get?`), and which numbers are in a
text box (`Arena.children`). The first part of this file says what each
operation does to each of the three; nothing after it looks at the nodes.

The second part is about building trees. `Arena.tree?` bounds the nesting by
the number of elements. `Arena.Builds` says the same without any bound, and
leaves nothing out:

> `Arena.tree?_builds`: where children have larger numbers than their text box,
> every element is built, with all elements in it.
-/

namespace Lineage

namespace Element

/-- Of the same kind, and with the same text or a longer one. -/
def Extends (e later : Element) : Prop :=
  later.name = e.name ∧ ∃ added, later.text? = e.text?.map (· ++ added)

theorem extends_refl (e : Element) : e.Extends e :=
  ⟨rfl, "", by simp⟩

theorem Extends.trans {e later last : Element} (h : e.Extends later) (h' : later.Extends last) :
    e.Extends last := by
  obtain ⟨hname, added, htext⟩ := h
  obtain ⟨hname', added', htext'⟩ := h'
  refine ⟨hname'.trans hname, added ++ added', ?_⟩
  rw [htext', htext, Option.map_map]
  congr 1
  funext text
  exact String.append_assoc ..

theorem extends_append (e : Element) (text : String) : e.Extends (e.append text) := by
  cases e <;> exact ⟨rfl, text, rfl⟩

end Element

namespace Arena

/-- The number of elements. -/
def size (arena : Arena) : Nat :=
  arena.nodes.size

variable {arena : Arena}

/-! ## Looking at an arena after a change -/

theorem get?_of_size_le {id : ElementId} (h : arena.size ≤ id) : arena.get? id = none := by
  rw [get?, Array.getElem?_eq_none h]
  rfl

theorem lt_size_of_get? {id : ElementId} {e : Element} (h : arena.get? id = some e) :
    id < arena.size := by
  by_contra hle
  rw [get?_of_size_le (Nat.not_lt.mp hle)] at h
  cases h

theorem children_eq (arena : Arena) (id : ElementId) :
    arena.children id = (arena.nodes[id]?.map ArenaNode.children).getD [] := by
  rw [children]
  cases arena.nodes[id]? <;> rfl

theorem isTextBox_iff {id : ElementId} :
    arena.isTextBox id = true ↔ ∃ box, arena.get? id = some (.textBox box) := by
  rw [isTextBox]
  cases arena.get? id with
  | none => simp
  | some e => cases e <;> simp [Element.isTextBox]

theorem lt_size_of_isTextBox {id : ElementId} (h : arena.isTextBox id = true) :
    id < arena.size := by
  obtain ⟨box, hbox⟩ := isTextBox_iff.mp h
  exact lt_size_of_get? hbox

/-! ### A new element -/

@[simp] theorem size_alloc (arena : Arena) (e : Element) :
    (arena.alloc e).2.size = arena.size + 1 :=
  Array.size_push ..

theorem get?_alloc (arena : Arena) (e : Element) (id : ElementId) :
    (arena.alloc e).2.get? id = if id = arena.size then some e else arena.get? id := by
  show (arena.nodes.push { element := e })[id]?.map ArenaNode.element = _
  rw [Array.getElem?_push, size]
  split <;> rfl

@[simp] theorem children_alloc (arena : Arena) (e : Element) (id : ElementId) :
    (arena.alloc e).2.children id = arena.children id := by
  rw [children_eq, children_eq]
  show ((arena.nodes.push { element := e })[id]?.map ArenaNode.children).getD [] = _
  rw [Array.getElem?_push]
  split
  next h => rw [h, Array.getElem?_eq_none (Nat.le_refl _)]; rfl
  next => rfl

/-! ### A change to an element -/

@[simp] theorem size_update (arena : Arena) (id : ElementId) (f : Element → Element) :
    (arena.update id f).size = arena.size :=
  Array.size_modify ..

theorem get?_update (arena : Arena) (id : ElementId) (f : Element → Element) (j : ElementId) :
    (arena.update id f).get? j = if j = id then (arena.get? j).map f else arena.get? j := by
  show (arena.nodes.modify id _)[j]?.map ArenaNode.element = _
  rw [Array.getElem?_modify]
  by_cases h : id = j
  · rw [if_pos h, if_pos h.symm, get?, Option.map_map, Option.map_map]
    rfl
  · rw [if_neg h, if_neg (Ne.symm h), get?]

@[simp] theorem children_update (arena : Arena) (id : ElementId) (f : Element → Element)
    (j : ElementId) : (arena.update id f).children j = arena.children j := by
  rw [children_eq, children_eq]
  show ((arena.nodes.modify id _)[j]?.map ArenaNode.children).getD [] = _
  rw [Array.getElem?_modify]
  split
  · rw [Option.map_map]
    rfl
  · rfl

/-! ### A child for a text box -/

/-- The arena with one more child in a text box. -/
def withChild (arena : Arena) (box child : ElementId) : Arena :=
  ⟨arena.nodes.modify box fun node => { node with children := node.children ++ [child] }⟩

theorem attach?_of_isTextBox {box : ElementId} (h : arena.isTextBox box = true)
    (child : ElementId) : arena.attach? box child = some (arena.withChild box child) :=
  if_pos h

@[simp] theorem size_withChild (arena : Arena) (box child : ElementId) :
    (arena.withChild box child).size = arena.size :=
  Array.size_modify ..

@[simp] theorem get?_withChild (arena : Arena) (box child id : ElementId) :
    (arena.withChild box child).get? id = arena.get? id := by
  show (arena.nodes.modify box _)[id]?.map ArenaNode.element = _
  rw [Array.getElem?_modify]
  split
  · rw [get?, Option.map_map]
    rfl
  · rw [get?]

@[simp] theorem isTextBox_withChild (arena : Arena) (box child id : ElementId) :
    (arena.withChild box child).isTextBox id = arena.isTextBox id := by
  rw [isTextBox, isTextBox, get?_withChild]

theorem children_withChild {box : ElementId} (h : box < arena.size) (child id : ElementId) :
    (arena.withChild box child).children id =
      if id = box then arena.children id ++ [child] else arena.children id := by
  rw [children_eq, children_eq]
  show ((arena.nodes.modify box _)[id]?.map ArenaNode.children).getD [] = _
  rw [Array.getElem?_modify]
  by_cases hid : id = box
  · subst hid
    rw [if_pos rfl, if_pos rfl, Array.getElem?_eq_getElem h]
    rfl
  · rw [if_neg (Ne.symm hid), if_neg hid]

/-! ### Text boxes stay text boxes -/

/-- Changes of elements that leave text boxes what they are. -/
def KeepsBoxes (f : Element → Element) : Prop :=
  ∀ e, (f e).isTextBox = e.isTextBox

theorem isTextBox_update {f : Element → Element} (hf : KeepsBoxes f) (arena : Arena)
    (id j : ElementId) : (arena.update id f).isTextBox j = arena.isTextBox j := by
  rw [isTextBox, isTextBox, get?_update]
  split
  · cases arena.get? j with
    | none => rfl
    | some e => exact hf e
  · rfl

/-- A text box stays one when elements are added. -/
theorem isTextBox_alloc {id : Nat} (e : Element)
    (h : arena.isTextBox id = true) : (arena.alloc e).2.isTextBox id = true := by
  have hid : id ≠ arena.size := Nat.ne_of_lt (lt_size_of_isTextBox h)
  rw [isTextBox, get?_alloc, if_neg hid]
  exact h

/-! ### What stays -/

/-- What has been created stays, and with it what has been written. -/
def Extends (arena later : Arena) : Prop :=
  ∀ (id : Nat) (e : Element), arena.get? id = some e →
    ∃ e', later.get? id = some e' ∧ e.Extends e'

namespace Extends

theorem refl (arena : Arena) : arena.Extends arena := fun _ e he => ⟨e, he, e.extends_refl⟩

theorem trans {later last : Arena} (h : arena.Extends later) (h' : later.Extends last) :
    arena.Extends last := by
  intro id e he
  obtain ⟨e', he', hextends⟩ := h id e he
  obtain ⟨e'', he'', hextends'⟩ := h' id e' he'
  exact ⟨e'', he'', hextends.trans hextends'⟩

theorem of_get?_eq {later : Arena} (h : ∀ id, later.get? id = arena.get? id) :
    arena.Extends later := fun id e he => ⟨e, (h id).trans he, e.extends_refl⟩

theorem alloc (arena : Arena) (e : Element) : arena.Extends (arena.alloc e).2 := by
  intro id old hold
  have hne : id ≠ arena.size := Nat.ne_of_lt (lt_size_of_get? hold)
  exact ⟨old, (get?_alloc ..).trans ((if_neg hne).trans hold), old.extends_refl⟩

theorem update {f : Element → Element} (hf : ∀ e, Element.Extends e (f e)) (arena : Arena)
    (id : ElementId) : arena.Extends (arena.update id f) := by
  intro j e he
  by_cases hj : j = id
  · refine ⟨f e, ?_, hf e⟩
    rw [get?_update, if_pos hj, he]
    rfl
  · refine ⟨e, ?_, e.extends_refl⟩
    rw [get?_update, if_neg hj, he]

end Extends

/-! ## Building trees -/

/-- The children of an arena are in order: only text boxes have children, and
these are elements that were created after the text box. -/
def Ordered (arena : Arena) : Prop :=
  ∀ parent child : Nat, child ∈ arena.children parent →
    arena.isTextBox parent = true ∧ parent < child ∧ child < arena.size

/-- The tree of an element: the element, and the trees of all its children. -/
inductive Builds (arena : Arena) : ElementId → ElementTree → Prop
  | node {id : ElementId} {e : Element} {trees : List ElementTree}
      (element : arena.get? id = some e)
      (children : List.Forall₂ (Builds arena) (arena.children id) trees) :
      Builds arena id (.node e trees)

/-- Building from a list of numbers keeps all of them, if each can be built. -/
theorem forall₂_filterMap {α β : Type} {R : α → β → Prop} {f : α → Option β} :
    ∀ {items : List α}, (∀ a ∈ items, ∃ b, f a = some b ∧ R a b) →
      List.Forall₂ R items (items.filterMap f)
  | [], _ => .nil
  | a :: rest, h => by
    obtain ⟨b, hb, hR⟩ := h a (List.mem_cons_self ..)
    rw [List.filterMap_cons_some hb]
    exact .cons hR (forall₂_filterMap fun c hc => h c (List.mem_cons_of_mem _ hc))

/-- An element is built as soon as the bound leaves room for all elements that
were created after it. -/
theorem treeWithin?_builds (h : arena.Ordered) (depth : Nat) {id : Nat}
    (hid : id < arena.size) (hdepth : arena.size ≤ id + depth) :
    ∃ tree, arena.treeWithin? depth id = some tree ∧ arena.Builds id tree := by
  -- on the bound: the children have larger numbers, so they need less room
  induction depth generalizing id with
  | zero => omega
  | succ depth ih =>
    have hnode : arena.nodes[id]? = some arena.nodes[id] := Array.getElem?_eq_getElem hid
    have helement : arena.get? id = some arena.nodes[id].element := by
      rw [get?, hnode]
      rfl
    have hchildren : arena.children id = arena.nodes[id].children := by
      rw [children, hnode]
    have hbuilt : List.Forall₂ arena.Builds (arena.children id)
        ((arena.children id).filterMap (arena.treeWithin? depth)) := by
      refine forall₂_filterMap ?_
      intro child hchild
      obtain ⟨-, hlt, hsize⟩ := h id child hchild
      exact ih hsize (by omega)
    rw [treeWithin?, hnode]
    by_cases hbox : arena.nodes[id].element.isTextBox = true
    · refine ⟨.node arena.nodes[id].element
        ((arena.children id).filterMap (arena.treeWithin? depth)), ?_, .node helement hbuilt⟩
      rw [Option.map_some, if_pos hbox, hchildren]
    · -- no text box, so there are no children to leave out
      have hnone : arena.children id = [] := by
        refine List.eq_nil_iff_forall_not_mem.mpr fun child hchild => hbox ?_
        obtain ⟨hparent, -⟩ := h id child hchild
        rwa [isTextBox, helement, Option.any_some] at hparent
      refine ⟨.node arena.nodes[id].element [], ?_, .node helement ?_⟩
      · rw [Option.map_some, if_neg hbox]
      · rw [hnone]
        exact .nil

/-- **Every element of an ordered arena is built, with all elements in it.** -/
theorem tree?_builds (h : arena.Ordered) {id : ElementId} (hid : id < arena.size) :
    ∃ tree, arena.tree? id = some tree ∧ arena.Builds id tree :=
  treeWithin?_builds h arena.nodes.size hid (Nat.le_add_left _ _)

end Arena

/-! ## Documents in order -/

/-- A document in order: what stands in a section has been created, and what
stands in an element is newer than that element, which is a text box. -/
structure Draft.Orderly (draft : Draft) : Prop where
  sections : ∀ (place : Section) (id : Nat), id ∈ draft.ids place → id < draft.arena.size
  children : draft.arena.Ordered

namespace Draft

variable {draft : Draft}

theorem ids_push (draft : Draft) (place : Section) (id : ElementId) (other : Section) :
    (draft.push place id).ids other =
      if other = place then draft.ids other ++ [id] else draft.ids other := by
  cases place <;> cases other <;> rfl

@[simp] theorem arena_push (draft : Draft) (place : Section) (id : ElementId) :
    (draft.push place id).arena = draft.arena := by
  cases place <;> rfl

@[simp] theorem ids_arena (draft : Draft) (arena : Arena) (place : Section) :
    ({ draft with arena } : Draft).ids place = draft.ids place := by
  cases place <;> rfl

namespace Orderly

theorem alloc (h : draft.Orderly) (e : Element) :
    ({ draft with arena := (draft.arena.alloc e).2 } : Draft).Orderly where
  sections place id hid := by
    rw [ids_arena] at hid
    have := h.sections place id hid
    rw [Arena.size_alloc]
    omega
  children parent child hchild := by
    rw [Arena.children_alloc] at hchild
    obtain ⟨hbox, hlt, hsize⟩ := h.children parent child hchild
    refine ⟨Arena.isTextBox_alloc e hbox, hlt, ?_⟩
    rw [Arena.size_alloc]
    omega

theorem update (h : draft.Orderly) {f : Element → Element} (hf : Arena.KeepsBoxes f)
    (id : ElementId) : (draft.update id f).Orderly where
  sections place j hj := by
    rw [Draft.update, ids_arena] at hj
    rw [Draft.update, Arena.size_update]
    exact h.sections place j hj
  children parent child hchild := by
    rw [Draft.update, Arena.children_update] at hchild
    rw [Draft.update, Arena.isTextBox_update hf, Arena.size_update]
    exact h.children parent child hchild

theorem push (h : draft.Orderly) (place : Section) {id : Nat} (hid : id < draft.arena.size) :
    (draft.push place id).Orderly where
  sections other j hj := by
    rw [arena_push]
    rw [ids_push] at hj
    split at hj
    · rcases List.mem_append.mp hj with hj | hj
      · exact h.sections other j hj
      · rwa [List.mem_singleton.mp hj]
    · exact h.sections other j hj
  children := by
    rw [arena_push]
    exact h.children

theorem withChild (h : draft.Orderly) {box id : Nat} (hbox : draft.arena.isTextBox box = true)
    (hlt : box < id) (hid : id < draft.arena.size) :
    ({ draft with arena := draft.arena.withChild box id } : Draft).Orderly where
  sections place j hj := by
    rw [ids_arena] at hj
    rw [Arena.size_withChild]
    exact h.sections place j hj
  children parent child hchild := by
    rw [Arena.isTextBox_withChild, Arena.size_withChild]
    rw [Arena.children_withChild (Arena.lt_size_of_isTextBox hbox)] at hchild
    split at hchild
    next hparent =>
      subst hparent
      rcases List.mem_append.mp hchild with hchild | hchild
      · exact h.children parent child hchild
      · -- the new child
        rw [List.mem_singleton.mp hchild]
        exact ⟨hbox, hlt, hid⟩
    next => exact h.children parent child hchild

end Orderly

end Draft

namespace Draft

/-- No element of a section is left out when the section is built. -/
theorem trees_builds {draft : Draft} (h : draft.Orderly) (place : Section) :
    List.Forall₂ draft.arena.Builds (draft.ids place) (draft.trees place) :=
  Arena.forall₂_filterMap fun id hid => Arena.tree?_builds h.children (h.sections place id hid)

end Draft

end Lineage
