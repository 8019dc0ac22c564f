import Lineage.Proofs.Walk.Frame

/-!
# The structured meaning of a template

The walk counts its way through everything that it skips. It goes through the
content of a repeated block once with all of it skipped, and only the end of
the block carries the content out, for items that the start has put on a stack.
This file gives templates a meaning without counters and without that stack:
a condition either carries its content out or does not, a repeated block
collects its items and carries its content out for each of them, and so on.

`performElement` is the meaning of an element, given that of its content;
`performAll` is the meaning of a list of nodes, by recursion over the nodes.
Nothing here looks at `State.suppression` or at `State.collected`.

> `performAll_keepsFrame`: the meaning of a template leaves the frame of a
> state as it was.

This is the easy half of the stack discipline of the walk; the other half is
that the walk has that meaning, which `Refinement` proves.
-/

namespace Lineage.Report

open Template (Head Node)

/-! ## Elements that decide about their content -/

namespace State

/-- Carries out a body if a condition holds. -/
def whenHolds (env : Environment) (attrs : Attributes) (location : Location)
    (body : State → Outcome) (s : State) : Outcome :=
  match conditionHolds env s (attrs.getD "condition" "") with
  | .ok true => body s
  | .ok false => .ok s
  | .error cause => .error ⟨.ofFormula location cause, s⟩

/-- Carries out a body with the text that is named as the active one, and then
restores the record; without such a text the body is left out. -/
def withSubject (env : Environment) (attrs : Attributes) (body : State → Outcome) (s : State) :
    Outcome :=
  let id := Text.replace "@fact" s.active.fact (attrs.getD "id" "")
  let text := targetText env s (.ofText id)
  if text.isEmpty then .ok s
  else do
    let done ← body (s.switchTo text)
    .ok { done with active := s.active, savedRecords := s.savedRecords }

/-- Carries out a body as the content of a footnote; when the record that is
cited is missing or may not be seen, the body is left out. -/
def withinFootnote (env : Environment) (attrs : Attributes) (body : State → Outcome)
    (s : State) : Outcome :=
  match (Leveled.citedXref? s.active.text).bind env.store.record? with
  | none => .ok s
  | some record =>
    if env.store.canShow record then do
      let done ← body (s.openFootnote (attrs.getD "style" ""))
      .ok done.endFootnote
    else .ok s

/-- Carries out a body for each of some items, one after the other, and then
restores the active text. -/
def forEach (env : Environment) (items : Items) (body : State → Outcome) (s : State) :
    Outcome := do
  let done ← replayItems env body s items
  .ok { done with active := s.active }

/-- Carries out a body for each part of the active text that an element names.
The path `@desc` prints the description instead. -/
def forEachPart (env : Environment) (attrs : Attributes) (body : State → Outcome) (s : State) :
    Outcome :=
  match attrs.getD "tag" "" with
  | "" => s.forEach env (.parts []) body
  | "@desc" => (s.addText (Text.trim s.active.description)).forEach env (.parts []) body
  | tag =>
    let path := Text.replace "@fact" s.active.fact tag
    s.forEach env (.parts (partsAt env.store s.active path)) body

/-- A path that is neither missing nor `@desc` names parts of the active
text. -/
theorem forEachPart_of_path {env : Environment} {attrs : Attributes} {body : State → Outcome}
    {s : State} (hempty : attrs.getD "tag" "" ≠ "")
    (hdescription : attrs.getD "tag" "" ≠ "@desc") :
    s.forEachPart env attrs body =
      s.forEach env
        (.parts (partsAt env.store s.active
          (Text.replace "@fact" s.active.fact (attrs.getD "tag" ""))))
        body := by
  unfold forEachPart
  split
  next hpath => exact absurd hpath hempty
  next hpath => exact absurd hpath hdescription
  next => rfl

/-- Carries out a body for each record of a list. -/
def forEachRecord (env : Environment) (attrs : Attributes) (body : State → Outcome)
    (s : State) : Outcome :=
  match recordsOf env.store s.scope s.active attrs with
  | .ok records => s.forEach env (.records records) body
  | .error e => .error ⟨e, s⟩

end State

/-! ## Templates -/

/-- The meaning of an element, `body` being that of its content. -/
def performElement (env : Environment) (head : Head) (body : State → Outcome) (s : State) :
    Outcome :=
  let attrs := head.attributes.resolve s.scope
  match head.tag with
  | .ifTag => s.whenHolds env attrs head.location body
  | .gedcom => s.withSubject env attrs body
  | .footnote => s.withinFootnote env attrs body
  | .repeatTag => s.forEachPart env attrs body
  | .facts => s.forEach env (.facts (factsOf env.store s.scope s.active attrs)) body
  | .list => s.forEachRecord env attrs body
  | .relatives =>
    s.forEach env (.relatives (relativesOf env.store s.scope s.active attrs)) body
  | _ => do
    let s ← startElement env head s
    let s ← body s
    endElement env head .ok s

mutual

/-- The meaning of a node. -/
def perform (env : Environment) : Node → State → Outcome
  | .text text, s => .ok (if s.prints then s.addText text else s)
  | .element head children, s => performElement env head (performAll env children) s

/-- The meaning of the nodes of a list, one after the other. -/
def performAll (env : Environment) : List Node → State → Outcome
  | [], s => .ok s
  | node :: rest, s => do
    let s ← perform env node s
    performAll env rest s

end

theorem performAll_nil (env : Environment) (s : State) : performAll env [] s = .ok s := by
  rw [performAll]

theorem performAll_text (env : Environment) (text : String) (rest : List Node) (s : State) :
    performAll env (.text text :: rest) s =
      performAll env rest (if s.prints then s.addText text else s) := by
  rw [performAll, perform]
  rfl

theorem performAll_element (env : Environment) (head : Head) (children rest : List Node)
    (s : State) :
    performAll env (.element head children :: rest) s =
      (performElement env head (performAll env children) s >>= performAll env rest) := by
  rw [performAll, perform]

/-- The meaning of an element that is not counted: start, content and end. -/
theorem performElement_of_not_isCounted {env : Environment} {head : Head}
    (h : head.tag.isCounted = false) (body : State → Outcome) (s : State) :
    performElement env head body s = (do
      let s ← startElement env head s
      let s ← body s
      endElement env head .ok s) := by
  obtain ⟨tag, name, attributes, location⟩ := head
  cases tag with
  | ifTag | gedcom | footnote | repeatTag | facts | list | relatives => cases h
  | _ => rfl

/-! ## Frames -/

/-- A part of a template that leaves the frame as it found it. -/
def KeepsFrame (body : State → Outcome) : Prop :=
  ∀ {s t : State}, body s = .ok t → t.frame = s.frame

namespace State

variable {env : Environment} {attrs : Attributes} {body : State → Outcome}

theorem keepsFrame_whenHolds {location : Location} (h : KeepsFrame body) :
    KeepsFrame (whenHolds env attrs location body) := by
  intro s t ht
  unfold whenHolds at ht
  split at ht
  · exact h ht
  · cases ht
    rfl
  · cases ht

/-- A switch to another record touches only what its end restores. -/
theorem frame_switchTo (s : State) (text : String) :
    { (s.switchTo text).frame with active := s.active, savedRecords := s.savedRecords } =
      s.frame := by
  unfold switchTo frame
  dsimp only

theorem keepsFrame_withSubject (h : KeepsFrame body) : KeepsFrame (withSubject env attrs body) := by
  intro s t ht
  unfold withSubject at ht
  dsimp only at ht
  generalize targetText env s _ = text at ht
  split at ht
  · cases ht
    rfl
  · obtain ⟨done, hdone, ht⟩ := Outcome.bind_eq_ok.mp ht
    cases ht
    have hframe : done.frame = (s.switchTo text).frame := h hdone
    calc ({ done with active := s.active, savedRecords := s.savedRecords } : State).frame
        = { done.frame with active := s.active, savedRecords := s.savedRecords } := rfl
      _ = { (s.switchTo text).frame with
            active := s.active, savedRecords := s.savedRecords } := by rw [hframe]
      _ = s.frame := frame_switchTo s text

theorem keepsFrame_withinFootnote (h : KeepsFrame body) :
    KeepsFrame (withinFootnote env attrs body) := by
  intro s t ht
  unfold withinFootnote at ht
  split at ht
  · cases ht
    rfl
  · split at ht
    · obtain ⟨done, hdone, ht⟩ := Outcome.bind_eq_ok.mp ht
      cases ht
      exact frame_endFootnote (h hdone)
    · cases ht
      rfl

/-- One more time through a body. -/
theorem keepsFrame_replay (h : KeepsFrame body) : KeepsFrame (replay env body) := by
  intro s t ht
  unfold replay at ht
  split at ht
  · cases ht
  · split at ht
    next done hdone =>
      cases ht
      exact congrArg (fun f : Frame => { f with replayDepth := f.replayDepth - 1 }) (h hdone)
    next => cases ht

end State

/-- Two states with the same frame except for the active text. -/
def SameButActive (s t : State) : Prop :=
  t.frame = { s.frame with active := t.active }

theorem SameButActive.trans {s t u : State} (h : SameButActive s t) (h' : SameButActive t u) :
    SameButActive s u := by
  unfold SameButActive at h h' ⊢
  rw [h', h]

/-- Steps that change nothing in the frame but the active text do so in
sequence, too. -/
theorem sameButActive_foldlM {α : Type} {step : State → α → Outcome}
    (h : ∀ {s t : State} {a : α}, step s a = .ok t → SameButActive s t) :
    ∀ (items : List α) {s t : State}, items.foldlM step s = .ok t → SameButActive s t
  | [], s, t, ht => by
    cases ht
    rfl
  | a :: rest, s, t, ht => by
    rw [List.foldlM_cons] at ht
    obtain ⟨u, hu, ht⟩ := Outcome.bind_eq_ok.mp ht
    exact (h hu).trans (sameButActive_foldlM h rest ht)

namespace State

variable {env : Environment} {attrs : Attributes} {body : State → Outcome}

/-- Only the active text of the frame changes while a body is carried out for
its items. -/
theorem sameButActive_replayItems (h : KeepsFrame body) {items : Items} {s t : State}
    (ht : replayItems env body s items = .ok t) : SameButActive s t := by
  -- each step makes something active and then carries the body out once
  have hstep {s t u : State} (ht : u.replay env body = .ok t) (hu : SameButActive s u) :
      SameButActive s t := by
    have hframe : t.frame = u.frame := keepsFrame_replay h ht
    have hactive : t.active = u.active := congrArg Frame.active hframe
    unfold SameButActive at hu ⊢
    rw [hframe, hactive, hu]
  cases items with
  | parts texts =>
    rw [replayItems] at ht
    refine sameButActive_foldlM ?_ texts ht
    intro s t text ht
    exact hstep ht rfl
  | facts facts =>
    rw [replayItems] at ht
    refine sameButActive_foldlM ?_ facts ht
    intro s t fact ht
    exact hstep ht rfl
  | records records =>
    rw [replayItems] at ht
    have htotals : SameButActive s (s.startTotals records.length) := rfl
    refine htotals.trans (sameButActive_foldlM ?_ records ht)
    intro s t record ht
    unfold replayRecord at ht
    split at ht
    · exact hstep ht rfl
    · cases ht
      rfl
  | relatives relatives =>
    rw [replayItems] at ht
    have htotals : SameButActive s (s.startTotals relatives.length) := rfl
    refine htotals.trans (sameButActive_foldlM ?_ relatives ht)
    intro s t relative ht
    exact hstep ht rfl

theorem keepsFrame_forEach {items : Items} (h : KeepsFrame body) :
    KeepsFrame (forEach env items body) := by
  intro s t ht
  obtain ⟨done, hdone, ht⟩ := Outcome.bind_eq_ok.mp ht
  cases ht
  have hsame : SameButActive s done := sameButActive_replayItems h hdone
  exact congrArg (fun f : Frame => { f with active := s.active }) hsame

theorem keepsFrame_forEachPart (h : KeepsFrame body) :
    KeepsFrame (forEachPart env attrs body) := by
  intro s t ht
  unfold forEachPart at ht
  split at ht
  · exact keepsFrame_forEach h ht
  · exact (keepsFrame_forEach h ht).trans (frame_addText s _)
  · exact keepsFrame_forEach h ht

theorem keepsFrame_forEachRecord (h : KeepsFrame body) :
    KeepsFrame (forEachRecord env attrs body) := by
  intro s t ht
  unfold forEachRecord at ht
  split at ht
  · exact keepsFrame_forEach h ht
  · cases ht

end State

/-- An element leaves the frame as it found it, provided that its content
does. -/
theorem keepsFrame_performElement {env : Environment} {head : Head} {body : State → Outcome}
    (h : KeepsFrame body) : KeepsFrame (performElement env head body) := by
  intro s t ht
  cases hc : head.tag.isCounted with
  | false =>
    rw [performElement_of_not_isCounted hc] at ht
    obtain ⟨u, hu, ht⟩ := Outcome.bind_eq_ok.mp ht
    obtain ⟨v, hv, ht⟩ := Outcome.bind_eq_ok.mp ht
    exact frame_of_bracket hc hu (h hv) ht
  | true =>
    obtain ⟨tag, name, attributes, location⟩ := head
    unfold performElement at ht
    cases tag with
    | ifTag => exact State.keepsFrame_whenHolds h ht
    | gedcom => exact State.keepsFrame_withSubject h ht
    | footnote => exact State.keepsFrame_withinFootnote h ht
    | repeatTag => exact State.keepsFrame_forEachPart h ht
    | facts => exact State.keepsFrame_forEach h ht
    | list => exact State.keepsFrame_forEachRecord h ht
    | relatives => exact State.keepsFrame_forEach h ht
    | _ => cases hc

/-- **The meaning of a template leaves the frame of a state as it was.** -/
theorem performAll_keepsFrame (env : Environment) (nodes : List Node) :
    KeepsFrame (performAll env nodes) := by
  intro s t ht
  -- the body of an element is the meaning of its children
  induction nodes using Node.forest generalizing s t with
  | nil =>
    rw [performAll_nil] at ht
    cases ht
    rfl
  | text text rest ih =>
    rw [performAll_text] at ht
    split at ht
    · exact (ih ht).trans (State.frame_addText s text)
    · exact ih ht
  | element head children rest ihChildren ihRest =>
    rw [performAll_element] at ht
    obtain ⟨u, hu, ht⟩ := Outcome.bind_eq_ok.mp ht
    calc t.frame = u.frame := ihRest ht
      _ = s.frame := keepsFrame_performElement (fun hbody => ihChildren hbody) hu

end Lineage.Report
