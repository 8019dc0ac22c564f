import Lineage.Report.Walk

/-!
# The walk, node by node

A template is a forest: a list of nodes, the elements of which have lists of
nodes in them. `Node.forest` is the induction that follows this shape. The
equations of this file say what the walk does at the head of such a list: text
is printed, if text is printed at all, and an element is carried out. Carrying
out an element (`carryOut`) means to enter it, to carry out its content, and to
leave it, where entering and leaving ask the counters of skipped blocks first.
The content is a parameter of `carryOut`, so that what an element does with its
content can be proved without knowing what is in it.
-/

namespace Lineage.Template

/-- Induction over the nodes of a template: a list of nodes is empty, or it
starts with text, or it starts with an element, whose content is a list of
nodes itself. -/
@[elab_as_elim]
theorem Node.forest {P : List Node → Prop} (nil : P [])
    (text : ∀ s rest, P rest → P (.text s :: rest))
    (element : ∀ head children rest, P children → P rest →
      P (.element head children :: rest)) :
    ∀ nodes, P nodes
  | [] => nil
  | .text s :: rest => text s rest (forest nil text element rest)
  | .element head children :: rest =>
    element head children rest (forest nil text element children)
      (forest nil text element rest)

end Lineage.Template

namespace Lineage.Report

open Template (Head Node)

/-! ## Outcomes in sequence -/

namespace Outcome

@[simp] theorem ok_bind (s : State) (f : State → Outcome) : (Except.ok s >>= f) = f s :=
  rfl

@[simp] theorem error_bind (failure : Failure) (f : State → Outcome) :
    (Except.error failure >>= f) = .error failure :=
  rfl

/-- What succeeds does not fail. -/
theorem ok_ne_error {s : State} {failure : Failure} :
    (Except.ok s : Outcome) ≠ .error failure := by
  intro h
  cases h

/-- A sequence succeeds when its first part does and the second one does from
there. -/
theorem bind_eq_ok {x : Outcome} {f : State → Outcome} {t : State} :
    (x >>= f) = .ok t ↔ ∃ s, x = .ok s ∧ f s = .ok t := by
  cases x with
  | ok s =>
    constructor
    · intro h
      exact ⟨s, rfl, h⟩
    · rintro ⟨_, ⟨⟩, h⟩
      exact h
  | error failure =>
    constructor
    · intro h
      cases h
    · rintro ⟨_, h, _⟩
      cases h

end Outcome

/-! ## The start and the end of an element, as far as they are allowed -/

/-- What happens at the start of an element. -/
def enter (env : Environment) (head : Head) (s : State) : Outcome :=
  if s.suppression.allows head.tag then startElement env head s else .ok s

/-- What happens at the end of an element, `body` carrying out its content. -/
def leave (env : Environment) (head : Head) (body : State → Outcome) (s : State) : Outcome :=
  if s.suppression.allows head.tag then endElement env head body s else .ok s

theorem enter_of_allows {env : Environment} {head : Head} {s : State}
    (h : s.suppression.allows head.tag = true) : enter env head s = startElement env head s :=
  if_pos h

theorem leave_of_allows {env : Environment} {head : Head} {body : State → Outcome} {s : State}
    (h : s.suppression.allows head.tag = true) :
    leave env head body s = endElement env head body s :=
  if_pos h

theorem enter_of_not_allows {env : Environment} {head : Head} {s : State}
    (h : s.suppression.allows head.tag = false) : enter env head s = .ok s := by
  rw [enter, h]
  rfl

theorem leave_of_not_allows {env : Environment} {head : Head} {body : State → Outcome}
    {s : State} (h : s.suppression.allows head.tag = false) : leave env head body s = .ok s := by
  rw [leave, h]
  rfl

/-- Carries out an element, `body` carrying out its content. -/
def carryOut (env : Environment) (head : Head) (body : State → Outcome) (s : State) : Outcome :=
  do
    let s ← enter env head s
    let s ← body s
    leave env head body s

/-! ## The equations of the walk -/

theorem walk_element (env : Environment) (head : Head) (children : List Node) (s : State) :
    walk env (.element head children) s = carryOut env head (walkAll env children) s := by
  rw [walk, carryOut, enter]
  split <;> rfl

theorem walkAll_nil (env : Environment) (s : State) : walkAll env [] s = .ok s := by
  rw [walkAll]

/-- Text at the head of a list of nodes. -/
theorem walkAll_text (env : Environment) (text : String) (rest : List Node) (s : State) :
    walkAll env (.text text :: rest) s =
      walkAll env rest (if s.printsText then s.addText text else s) := by
  rw [walkAll, walk]
  rfl

/-- An element at the head of a list of nodes. -/
theorem walkAll_element (env : Environment) (head : Head) (children rest : List Node)
    (s : State) :
    walkAll env (.element head children :: rest) s =
      (carryOut env head (walkAll env children) s >>= walkAll env rest) := by
  rw [walkAll, walk_element]

end Lineage.Report
