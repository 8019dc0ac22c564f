import Lineage.Proofs.Walk.Basic

/-!
# Skipped content leaves no trace

While something is skipped, the walk still goes through it. Of the elements in
it only those that maintain the one counter that is not zero do anything: they
count up at their start and down at their end. This file proves that nothing
else happens.

> `walkAll_inert`: while a counter is not zero, a walk succeeds and ends in the
> very state that it started from.

`State.skip` is the counting at the start. `startElement_inert` says that an
element does no more than that while its counter is not zero, and
`endElement_skip` that its end takes exactly that back. The second fact does
not ask what the counters were before, so it also serves the outermost element
that is skipped, the one that sets a counter to one: `carryOut_of_skip`.
-/

namespace Lineage

open Template (Head Node Tag)

/-- Whether elements with the tag can be skipped with everything in them, and
count how deep they are nested in what is skipped. -/
def Template.Tag.isCounted : Tag → Bool
  | ifTag | gedcom | footnote => true
  | tag => tag.isRepeat

namespace Report

/-- The counter that elements with the tag maintain. -/
def Suppression.counter (c : Suppression) : Tag → Nat
  | .ifTag => c.conditions
  | .gedcom => c.switches
  | .footnote => c.footnotes
  | .repeatTag | .facts | .list | .relatives => c.repeats
  | _ => 0

/-- What an element does at its start when it is skipped: it counts. -/
def State.skip (tag : Tag) (s : State) : State :=
  match tag with
  | .ifTag => { s with suppression.conditions := s.suppression.conditions + 1 }
  | .gedcom => { s with suppression.switches := s.suppression.switches + 1 }
  | .footnote => s.skipFootnote
  | .repeatTag | .facts | .list | .relatives => s.enterRepeat
  | _ => s

/-! ## The counters -/

namespace Suppression

theorem isClear_iff {c : Suppression} : c.isClear = true ↔ c = {} := by
  rw [isClear, beq_iff_eq]

/-- Something is skipped as soon as one of the four counters is not zero. -/
theorem isClear_eq_false {c : Suppression} :
    c.isClear = false ↔
      0 < c.conditions ∨ 0 < c.switches ∨ 0 < c.repeats ∨ 0 < c.footnotes := by
  obtain ⟨conditions, switches, repeats, footnotes⟩ := c
  rw [← Bool.not_eq_true, isClear_iff, Suppression.mk.injEq]
  dsimp only
  omega

/-- Nothing is forbidden while nothing is skipped. -/
theorem allows_of_isClear {c : Suppression} (h : c.isClear = true) (tag : Tag) :
    c.allows tag = true := by
  rw [isClear_iff.mp h]
  rfl

/-- While nothing is skipped, all counters are zero. -/
theorem not_counter_pos {c : Suppression} (h : c.isClear = true) (tag : Tag) :
    ¬ 0 < c.counter tag := by
  rw [isClear_iff.mp h]
  cases tag <;> exact Nat.lt_irrefl 0

/-- While something is skipped, only elements whose own counter is not zero
are allowed to do anything. -/
theorem counter_pos {c : Suppression} {tag : Tag} (h : c.isClear = false)
    (ha : c.allows tag = true) : 0 < c.counter tag := by
  rw [isClear_eq_false] at h
  cases tag <;> simp [allows, Tag.isRepeat] at ha <;> simp only [counter] <;> omega

theorem isCounted_of_counter_pos {c : Suppression} {tag : Tag} (h : 0 < c.counter tag) :
    tag.isCounted = true := by
  cases tag <;> first | rfl | exact absurd h (Nat.lt_irrefl 0)

theorem counter_of_isRepeat {tag : Tag} (h : tag.isRepeat = true) (c : Suppression) :
    c.counter tag = c.repeats := by
  cases tag <;> first | rfl | cases h

end Suppression

/-! ## Counting up and down -/

/-- Once an element is skipped, something is skipped. -/
theorem isClear_skip {tag : Tag} (h : tag.isCounted = true) (s : State) :
    (s.skip tag).suppression.isClear = false := by
  rw [Suppression.isClear_eq_false]
  cases tag with
  | ifTag => exact Or.inl (Nat.succ_pos _)
  | gedcom => exact Or.inr (Or.inl (Nat.succ_pos _))
  | repeatTag => exact Or.inr (Or.inr (Or.inl (Nat.succ_pos _)))
  | facts => exact Or.inr (Or.inr (Or.inl (Nat.succ_pos _)))
  | list => exact Or.inr (Or.inr (Or.inl (Nat.succ_pos _)))
  | relatives => exact Or.inr (Or.inr (Or.inl (Nat.succ_pos _)))
  | footnote => exact Or.inr (Or.inr (Or.inr (Nat.succ_pos _)))
  | _ => cases h

/-- Counting does not forbid the end of the element that counts. -/
theorem allows_skip {tag : Tag} {s : State} (h : s.suppression.allows tag = true) :
    (s.skip tag).suppression.allows tag = true := by
  cases tag <;> simpa [State.skip, State.skipFootnote, State.enterRepeat, Suppression.allows,
    Tag.isRepeat] using h

/-- An element whose counter is not zero only counts at its start. -/
theorem startElement_inert (env : Environment) {head : Head} {s : State}
    (h : 0 < s.suppression.counter head.tag) :
    startElement env head s = .ok (s.skip head.tag) := by
  obtain ⟨tag, name, attributes, location⟩ := head
  have hne : s.suppression.counter tag + 1 ≠ 1 := by
    have : 0 < s.suppression.counter tag := h
    omega
  cases tag with
  | ifTag => exact if_pos h
  | gedcom => exact congrArg Except.ok (if_pos h)
  | footnote => exact congrArg Except.ok (if_pos h)
  | repeatTag => exact congrArg Except.ok (if_neg hne)
  | facts => exact congrArg Except.ok (if_neg hne)
  | list => exact if_neg hne
  | relatives => exact congrArg Except.ok (if_neg hne)
  | _ => exact absurd h (Nat.lt_irrefl 0)

/-- The end of an element that was skipped takes its counting back. A repeated
block must not be the outermost one, since that one is carried out at its
end. -/
theorem endElement_skip (env : Environment) {head : Head} (body : State → Outcome) {s : State}
    (h : head.tag.isCounted = true)
    (hr : head.tag.isRepeat = true → 0 < s.suppression.repeats) :
    endElement env head body (s.skip head.tag) = .ok s := by
  obtain ⟨tag, name, attributes, location⟩ := head
  cases tag with
  | ifTag => rfl
  | gedcom => exact congrArg Except.ok (if_pos (Nat.succ_pos _))
  | footnote => rfl
  | repeatTag => exact if_pos (hr rfl)
  | facts => exact if_pos (hr rfl)
  | list => exact if_pos (hr rfl)
  | relatives => exact if_pos (hr rfl)
  | _ => cases h

/-! ## Walks -/

/-- An element that only counts at its start leaves no trace, provided that
its content does nothing while something is skipped. -/
theorem carryOut_of_skip {env : Environment} {head : Head} {body : State → Outcome} {s : State}
    (h : head.tag.isCounted = true)
    (hr : head.tag.isRepeat = true → 0 < s.suppression.repeats)
    (ha : s.suppression.allows head.tag = true)
    (hstart : startElement env head s = .ok (s.skip head.tag))
    (hbody : ∀ t : State, t.suppression.isClear = false → body t = .ok t) :
    carryOut env head body s = .ok s := by
  rw [carryOut, enter_of_allows ha, hstart, Outcome.ok_bind, hbody _ (isClear_skip h s),
    Outcome.ok_bind, leave_of_allows (allows_skip ha), endElement_skip env _ h hr]

/-- While something is skipped, an element leaves no trace if its content does
not. -/
theorem carryOut_inert {env : Environment} {head : Head} {body : State → Outcome} {s : State}
    (h : s.suppression.isClear = false)
    (hbody : ∀ t : State, t.suppression.isClear = false → body t = .ok t) :
    carryOut env head body s = .ok s := by
  cases ha : s.suppression.allows head.tag with
  | false =>
    -- the element does nothing, neither at its start nor at its end
    rw [carryOut, enter_of_not_allows ha, Outcome.ok_bind, hbody s h, Outcome.ok_bind,
      leave_of_not_allows ha]
  | true =>
    -- its own counter is not zero, so it counts up and then down again
    have hpos := Suppression.counter_pos h ha
    refine carryOut_of_skip (Suppression.isCounted_of_counter_pos hpos) ?_ ha
      (startElement_inert env hpos) hbody
    intro hr
    rwa [Suppression.counter_of_isRepeat hr] at hpos

/-- **Skipped content leaves no trace.** -/
theorem walkAll_inert (env : Environment) (nodes : List Node) {s : State}
    (h : s.suppression.isClear = false) : walkAll env nodes s = .ok s := by
  -- for all states, since the content of an element starts from other counters
  induction nodes using Node.forest generalizing s with
  | nil => exact walkAll_nil env s
  | text text rest ih =>
    have hprints : s.printsText = false := by rw [State.printsText, h, Bool.and_false]
    rw [walkAll_text, hprints]
    exact ih h
  | element head children rest ihChildren ihRest =>
    rw [walkAll_element, carryOut_inert h fun t ht => ihChildren ht, Outcome.ok_bind]
    exact ihRest h

/-- Nothing happens in a walk as long as one of the four counters is not zero:
neither what the nodes would do nor what would be wrong with them shows. -/
theorem walkAll_of_counter_pos (env : Environment) (nodes : List Node) {s : State}
    (h : 0 < s.suppression.conditions ∨ 0 < s.suppression.switches ∨
      0 < s.suppression.repeats ∨ 0 < s.suppression.footnotes) :
    walkAll env nodes s = .ok s :=
  walkAll_inert env nodes (Suppression.isClear_eq_false.mpr h)

/-- An unknown list, a malformed condition and an undefined variable inside a
repeated block inside an `if` block, both skipped. -/
theorem walkAll_of_counter_pos_of_malformed :
    walkAll {}
      [.element ⟨.list, "List", ⟨[("list", "nobody")]⟩, {}⟩
          [.element ⟨.repeatTag, "RepeatTag", ⟨[("tag", "NAME")]⟩, {}⟩ [.text "name"]],
        .element ⟨.ifTag, "if", ⟨[("condition", "((")]⟩, {}⟩
          [.element ⟨.setVar, "SetVar", ⟨[("name", "x"), ("value", "$y + 1")]⟩, {}⟩ []]]
      { suppression := { conditions := 1, repeats := 2 } } =
        .ok { suppression := { conditions := 1, repeats := 2 } } :=
  walkAll_of_counter_pos {} _ (Or.inl Nat.one_pos)

end Report

end Lineage
