import Lineage.Proofs.Walk.Structured

/-!
# The meaning of a template has no counters

`State` has the counters of skipped blocks and the stack of collected items in
it, because the walk needs them. The structured meaning of a template carries
them along and never looks at them. This file makes a theorem of that:

> `performAll_ignoresCounters`: whatever the counters are, and whatever has
> been collected, a template does the same to the rest of the state.

There is one fact of this kind for each handler that an element which is not
counted can call.
-/

namespace Lineage.Report

open Template (Head Node)

/-- A state with other counters and other collected items. -/
def State.withCounters (counters : Suppression) (collected : List Items) (s : State) : State :=
  { s with suppression := counters, collected }

/-- An outcome with other counters and other collected items. -/
def Outcome.withCounters (counters : Suppression) (collected : List Items) : Outcome → Outcome
  | .ok s => .ok (s.withCounters counters collected)
  | .error failure =>
    .error { failure with state := failure.state.withCounters counters collected }

/-- A part of a template that does not look at the counters nor at what has been
collected. -/
def IgnoresCounters (body : State → Outcome) : Prop :=
  ∀ (counters : Suppression) (collected : List Items) (s : State),
    body (s.withCounters counters collected) = (body s).withCounters counters collected

variable {env : Environment} {attrs : Attributes} {counters : Suppression}
  {collected : List Items}

/-! ## Handlers -/

namespace State

@[simp] theorem scope_withCounters (s : State) :
    (s.withCounters counters collected).scope = s.scope :=
  rfl

@[simp] theorem active_withCounters (s : State) :
    (s.withCounters counters collected).active = s.active :=
  rfl

@[simp] theorem output_withCounters (s : State) :
    (s.withCounters counters collected).output = s.output :=
  rfl

@[simp] theorem current_withCounters (s : State) :
    (s.withCounters counters collected).current = s.current :=
  rfl

@[simp] theorem containers_withCounters (s : State) :
    (s.withCounters counters collected).containers = s.containers :=
  rfl

@[simp] theorem addText_withCounters (s : State) (text : String) :
    (s.withCounters counters collected).addText text =
      (s.addText text).withCounters counters collected := by
  unfold addText
  cases hcurrent : s.current <;> simp only [withCounters, hcurrent]

@[simp] theorem attach_withCounters (s : State) (id : ElementId) :
    (s.withCounters counters collected).attach id =
      (s.attach id).withCounters counters collected := by
  unfold attach
  cases hcontainers : s.containers with
  | nil => simp only [withCounters, hcontainers]
  | cons box rest =>
    cases harena : s.draft.arena.attach? box id <;> simp only [withCounters, hcontainers, harena]

@[simp] theorem addElement_withCounters (s : State) (element : Element) :
    (s.withCounters counters collected).addElement element =
      (s.addElement element).withCounters counters collected :=
  attach_withCounters (s.create element).2 _

@[simp] theorem breakLine_withCounters (s : State) :
    (s.withCounters counters collected).breakLine =
      s.breakLine.withCounters counters collected := by
  unfold breakLine
  rw [addText_withCounters]
  exact (apply_ite _ _ _ _).symm

@[simp] theorem addMedia_withCounters (placement : Placement) (xref : String) (s : State) :
    (s.withCounters counters collected).addMedia env placement xref =
      (s.addMedia env placement xref).withCounters counters collected := by
  unfold addMedia
  cases env.store.mediaFile? xref with
  | none => rfl
  | some media =>
    simp only [output_withCounters, addElement_withCounters]
    cases media.size.or (s.output.imageSize? media.path) <;> rfl

@[simp] theorem addImage_withCounters (s : State) :
    (s.withCounters counters collected).addImage env attrs =
      (s.addImage env attrs).withCounters counters collected := by
  unfold addImage
  simp only [output_withCounters, active_withCounters, addMedia_withCounters,
    addElement_withCounters]
  split
  · split <;> rfl
  · split
    · split <;> rfl
    · rfl

@[simp] theorem addHighlightedImage_withCounters (s : State) :
    (s.withCounters counters collected).addHighlightedImage env attrs =
      (s.addHighlightedImage env attrs).withCounters counters collected := by
  unfold addHighlightedImage
  simp only [output_withCounters, active_withCounters, addMedia_withCounters]
  split
  · rfl
  · split <;> rfl

@[simp] theorem printName_withCounters (s : State) :
    (s.withCounters counters collected).printName env attrs =
      (s.printName env attrs).withCounters counters collected := by
  unfold printName
  simp only [scope_withCounters, active_withCounters, addText_withCounters]
  split
  · rfl
  · split <;> rfl

@[simp] theorem printValue_withCounters (s : State) :
    (s.withCounters counters collected).printValue env attrs =
      (s.printValue env attrs).withCounters counters collected := by
  unfold printValue
  simp only [active_withCounters, addText_withCounters]
  split <;> rfl

@[simp] theorem printVariable_withCounters (s : State) :
    (s.withCounters counters collected).printVariable env attrs =
      (s.printVariable env attrs).withCounters counters collected := by
  unfold printVariable
  simp only [scope_withCounters, active_withCounters, addText_withCounters]
  rfl

@[simp] theorem printGeneration_withCounters (s : State) :
    (s.withCounters counters collected).printGeneration env =
      (s.printGeneration env).withCounters counters collected :=
  addText_withCounters s _

@[simp] theorem printTotal_withCounters (s : State) :
    (s.withCounters counters collected).printTotal =
      s.printTotal.withCounters counters collected := by
  unfold printTotal
  simp only [addText_withCounters]
  exact (apply_ite _ _ _ _).symm

theorem assign_ignoresCounters (location : Location) :
    IgnoresCounters (assign env attrs location) := by
  intro counters collected s
  unfold assign
  simp only [scope_withCounters, active_withCounters]
  split <;> rfl

theorem endDocument_ignoresCounters : IgnoresCounters endDocument := by
  intro counters collected s
  unfold endDocument
  cases hfinish : (s.output.addDraft s.draft).finish s.footnotes <;>
    simp only [withCounters, Outcome.withCounters, hfinish]

@[simp] theorem endPrinting_withCounters (s : State) :
    (s.withCounters counters collected).endPrinting =
      s.endPrinting.withCounters counters collected := by
  unfold endPrinting
  cases hprints : s.printsBefore <;> simp only [withCounters, hprints]

@[simp] theorem endText_withCounters (s : State) :
    (s.withCounters counters collected).endText =
      s.endText.withCounters counters collected := by
  unfold endText
  rw [endPrinting_withCounters]
  generalize s.endPrinting = s
  simp only [current_withCounters, attach_withCounters]
  split <;> rfl

@[simp] theorem endBox_withCounters (s : State) :
    (s.withCounters counters collected).endBox = s.endBox.withCounters counters collected := by
  unfold endBox
  rw [endPrinting_withCounters]
  generalize s.endPrinting = s
  simp only [containers_withCounters]
  split
  next => rfl
  next id rest hcontainers =>
    exact attach_withCounters { s with containers := rest, current := some id } id

@[simp] theorem placeFootnote_withCounters (s : State) (id : ElementId) (text : String) :
    (s.withCounters counters collected).placeFootnote id text =
      (s.placeFootnote id text).withCounters counters collected := by
  rw [placeFootnote, placeFootnote, ← attach_withCounters]
  rfl

@[simp] theorem switchTo_withCounters (s : State) (text : String) :
    (s.withCounters counters collected).switchTo text =
      (s.switchTo text).withCounters counters collected := by
  cases hline : Leveled.tagAndValue? text <;> simp only [switchTo, withCounters, hline]

/-- The end of a footnote that was filled. -/
theorem endFootnote_withCounters {s : State} {id : ElementId}
    {previous : Option ElementId} {rest : List FootnoteFrame}
    (h : s.footnoteFrames = .visible id previous :: rest) :
    (s.withCounters counters collected).endFootnote =
      s.endFootnote.withCounters counters collected := by
  have h' : (s.withCounters counters collected).footnoteFrames = .visible id previous :: rest := h
  unfold endFootnote
  rw [h, h']
  dsimp only
  have hended : ({ s.withCounters counters collected with footnoteFrames := rest }).endPrinting =
      ({ s with footnoteFrames := rest }).endPrinting.withCounters counters collected :=
    endPrinting_withCounters { s with footnoteFrames := rest }
  rw [hended]
  generalize ({ s with footnoteFrames := rest }).endPrinting = s
  have htext : (s.withCounters counters collected).textOf id = s.textOf id := rfl
  rw [htext, placeFootnote_withCounters]
  split <;> rfl

end State

/-! ## Parts of templates -/

namespace IgnoresCounters

variable {body f g : State → Outcome}

theorem bind (hf : IgnoresCounters f) (hg : IgnoresCounters g) :
    IgnoresCounters fun s => f s >>= g := by
  intro counters collected s
  show f (s.withCounters counters collected) >>= g =
    Outcome.withCounters counters collected (f s >>= g)
  rw [hf]
  cases f s with
  | error failure => rfl
  | ok t => exact hg counters collected t

theorem whenHolds (h : IgnoresCounters body) (location : Location) :
    IgnoresCounters (State.whenHolds env attrs location body) := by
  intro counters collected s
  have hholds : conditionHolds env (s.withCounters counters collected) =
      conditionHolds env s := rfl
  unfold State.whenHolds
  rw [hholds]
  split
  · exact h counters collected s
  · rfl
  · rfl

theorem withSubject (h : IgnoresCounters body) :
    IgnoresCounters (State.withSubject env attrs body) := by
  intro counters collected s
  have htext (target : Target) : targetText env (s.withCounters counters collected) target =
      targetText env s target := by
    unfold targetText
    rfl
  unfold State.withSubject
  simp only [htext, State.active_withCounters, State.switchTo_withCounters]
  generalize targetText env s _ = text
  split
  · rfl
  · rw [h]
    cases body (s.switchTo text) <;> rfl

theorem withinFootnote (h : IgnoresCounters body) (hk : KeepsFrame body) :
    IgnoresCounters (State.withinFootnote env attrs body) := by
  intro counters collected s
  unfold State.withinFootnote
  rw [State.active_withCounters]
  split
  · rfl
  · split
    · have hopen : (s.withCounters counters collected).openFootnote (attrs.getD "style" "") =
          (s.openFootnote (attrs.getD "style" "")).withCounters counters collected := rfl
      rw [hopen, h]
      cases hdone : body (s.openFootnote (attrs.getD "style" "")) with
      | error failure => rfl
      | ok done =>
        -- the frame on top at the end is the one that was opened
        have hframes : done.footnoteFrames =
            (s.openFootnote (attrs.getD "style" "")).footnoteFrames :=
          congrArg Frame.footnoteFrames (hk hdone)
        exact congrArg Except.ok (State.endFootnote_withCounters hframes)
    · rfl

theorem replay (h : IgnoresCounters body) : IgnoresCounters (State.replay env body) := by
  intro counters collected s
  unfold State.replay
  have hdepth : (s.withCounters counters collected).replayDepth = s.replayDepth := rfl
  have hdeeper : { s.withCounters counters collected with replayDepth := s.replayDepth + 1 } =
      ({ s with replayDepth := s.replayDepth + 1 } : State).withCounters counters collected := rfl
  rw [hdepth, hdeeper, h]
  split
  · rfl
  · cases body { s with replayDepth := s.replayDepth + 1 } <;> rfl

/-- Steps that ignore the counters do so in sequence, too. -/
theorem foldlM {α : Type} {step : State → α → Outcome}
    (h : ∀ a : α, IgnoresCounters fun s => step s a) :
    ∀ items : List α, IgnoresCounters fun s => items.foldlM step s
  | [] => by
    intro counters collected s
    rfl
  | a :: rest => by
    simp only [List.foldlM_cons]
    exact (h a).bind (foldlM h rest)

theorem replayItems (h : IgnoresCounters body) (items : Items) :
    IgnoresCounters fun s => State.replayItems env body s items := by
  cases items with
  | parts texts =>
    refine foldlM ?_ texts
    intro text counters collected s
    exact h.replay counters collected (s.activate text)
  | facts facts =>
    refine foldlM ?_ facts
    intro fact counters collected s
    exact h.replay counters collected (s.activateFact fact)
  | records records =>
    have hstep : ∀ record, IgnoresCounters fun s => State.replayRecord env body s record := by
      intro record counters collected s
      unfold State.replayRecord
      split
      · exact h.replay counters collected (s.activate _)
      · rfl
    intro counters collected s
    exact foldlM hstep records counters collected (s.startTotals records.length)
  | relatives relatives =>
    have hstep : ∀ relative, IgnoresCounters fun s =>
        (s.activateRelative env.store relative).replay env body := by
      intro relative counters collected s
      exact h.replay counters collected (s.activateRelative env.store relative)
    intro counters collected s
    exact foldlM hstep relatives counters collected (s.startTotals relatives.length)

theorem forEach (h : IgnoresCounters body) (items : Items) :
    IgnoresCounters (State.forEach env items body) := by
  intro counters collected s
  have hitems : State.replayItems env body (s.withCounters counters collected) items =
      (State.replayItems env body s items).withCounters counters collected :=
    h.replayItems items counters collected s
  unfold State.forEach
  rw [hitems]
  cases State.replayItems env body s items <;> rfl

theorem forEachPart (h : IgnoresCounters body) :
    IgnoresCounters (State.forEachPart env attrs body) := by
  intro counters collected s
  unfold State.forEachPart
  simp only [State.active_withCounters, State.addText_withCounters]
  split <;> exact h.forEach _ counters collected _

theorem forEachRecord (h : IgnoresCounters body) :
    IgnoresCounters (State.forEachRecord env attrs body) := by
  intro counters collected s
  unfold State.forEachRecord
  simp only [State.scope_withCounters, State.active_withCounters]
  split
  · exact h.forEach _ counters collected s
  · rfl

end IgnoresCounters

/-! ## Templates -/

/-- The start of an element that is not counted does not look at the
counters. -/
theorem startElement_ignoresCounters {head : Head} (hc : head.tag.isCounted = false) :
    IgnoresCounters (startElement env head) := by
  intro counters collected s
  obtain ⟨tag, name, attributes, location⟩ := head
  cases tag with
  | gedcom | ifTag | footnote | repeatTag | facts | list | relatives => cases hc
  | setVar =>
    rw [startElement, startElement, State.scope_withCounters]
    exact State.assign_ignoresCounters location counters collected s
  | doc | style | header | body | footer | cell | text | textBox | title | description
  | other => rfl
  | _ =>
    rw [startElement, startElement]
    simp only [State.scope_withCounters, State.addText_withCounters,
      State.addElement_withCounters, State.breakLine_withCounters, State.addImage_withCounters,
      State.addHighlightedImage_withCounters, State.printName_withCounters,
      State.printValue_withCounters, State.printVariable_withCounters,
      State.printGeneration_withCounters, State.printTotal_withCounters]
    rfl

/-- The end of an element that is not counted does not look at the counters. -/
theorem endElement_ignoresCounters {head : Head} (hc : head.tag.isCounted = false) :
    IgnoresCounters (endElement env head .ok) := by
  intro counters collected s
  obtain ⟨tag, name, attributes, location⟩ := head
  cases tag with
  | gedcom | ifTag | footnote | repeatTag | facts | list | relatives => cases hc
  | doc => exact State.endDocument_ignoresCounters counters collected s
  | cell | text => exact congrArg Except.ok (State.endText_withCounters s)
  | textBox => exact congrArg Except.ok (State.endBox_withCounters s)
  | _ => rfl

theorem performElement_ignoresCounters {head : Head} {body : State → Outcome}
    (h : IgnoresCounters body) (hk : KeepsFrame body) :
    IgnoresCounters (performElement env head body) := by
  intro counters collected s
  cases hc : head.tag.isCounted with
  | false =>
    rw [performElement_of_not_isCounted hc, performElement_of_not_isCounted hc]
    exact (startElement_ignoresCounters hc).bind (h.bind (endElement_ignoresCounters hc))
      counters collected s
  | true =>
    obtain ⟨tag, name, attributes, location⟩ := head
    unfold performElement
    cases tag with
    | ifTag => exact h.whenHolds location counters collected s
    | gedcom => exact h.withSubject counters collected s
    | footnote => exact h.withinFootnote hk counters collected s
    | repeatTag => exact h.forEachPart counters collected s
    | facts => exact h.forEach _ counters collected s
    | list => exact h.forEachRecord counters collected s
    | relatives => exact h.forEach _ counters collected s
    | _ => cases hc

/-- **The meaning of a template has no counters.** -/
theorem performAll_ignoresCounters (env : Environment) (nodes : List Node) :
    IgnoresCounters (performAll env nodes) := by
  intro counters collected s
  induction nodes using Node.forest generalizing counters collected s with
  | nil =>
    rw [performAll_nil, performAll_nil]
    rfl
  | text text rest ih =>
    have hprints : (s.withCounters counters collected).prints = s.prints := rfl
    rw [performAll_text, performAll_text, hprints, State.addText_withCounters, ← ih]
    split <;> rfl
  | element head children rest ihChildren ihRest =>
    have helement : IgnoresCounters (performElement env head (performAll env children)) :=
      performElement_ignoresCounters ihChildren (performAll_keepsFrame env children)
    rw [performAll_element, performAll_element]
    exact helement.bind ihRest counters collected s

end Lineage.Report
