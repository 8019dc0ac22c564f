import Lineage.Proofs.Walk.Skipped

/-!
# What handlers leave alone

A start handler puts something on a stack and the end handler of the same
element takes it off again; in between, handlers add to the document, to the
variables and to the output. `State.frame` is the part of a state that has to
come out of an element as it went in: the active text, the counters, and the
stacks. Most handlers do not touch it at all. The few that do come in pairs,
and for these the fact is that the end restores the frame of the start:

> `frame_of_bracket`: an element that is not counted leaves the frame as it
> found it, provided that its content does.
-/

namespace Lineage

open Template (Head Node Tag)

/-- Whether elements with the tag put something on a stack at their start, for
their end to take off, though they are not counted. -/
def Template.Tag.isOpening : Tag → Bool
  | cell | text | textBox => true
  | _ => false

namespace Report

/-- The part of a state that elements leave as they find it. -/
structure Frame where
  active : Active
  suppression : Suppression
  prints : Bool
  printsBefore : List Bool
  savedRecords : List SavedRecord
  containers : List ElementId
  footnoteFrames : List FootnoteFrame
  collected : List Items
  replayDepth : Nat

namespace State

/-- The frame of a state. -/
def frame (s : State) : Frame :=
  { active := s.active
    suppression := s.suppression
    prints := s.prints
    printsBefore := s.printsBefore
    savedRecords := s.savedRecords
    containers := s.containers
    footnoteFrames := s.footnoteFrames
    collected := s.collected
    replayDepth := s.replayDepth }

/-! ## Handlers that only write into the document -/

/-- Whether two states differ at most in the document under construction. -/
def SameButDraft (s t : State) : Prop :=
  t = { s with draft := t.draft }

theorem SameButDraft.refl (s : State) : SameButDraft s s :=
  rfl

theorem SameButDraft.trans {s t u : State} (h : SameButDraft s t) (h' : SameButDraft t u) :
    SameButDraft s u := by
  unfold SameButDraft at h h' ⊢
  rw [h', h]

theorem sameButDraft_addText (s : State) (text : String) : SameButDraft s (s.addText text) := by
  unfold addText
  split <;> rfl

theorem sameButDraft_attach (s : State) (id : ElementId) : SameButDraft s (s.attach id) := by
  unfold attach
  split
  · rfl
  · split <;> rfl

theorem sameButDraft_addElement (s : State) (element : Element) :
    SameButDraft s (s.addElement element) :=
  have hcreated : SameButDraft s (s.create element).2 := rfl
  hcreated.trans (sameButDraft_attach (s.create element).2 _)

theorem sameButDraft_breakLine (s : State) : SameButDraft s s.breakLine := by
  unfold breakLine
  split
  · exact sameButDraft_addText s _
  · exact .refl s

theorem sameButDraft_addMedia (env : Environment) (placement : Placement) (xref : String)
    (s : State) : SameButDraft s (s.addMedia env placement xref) := by
  unfold addMedia
  split
  · exact .refl s
  · split
    · exact .refl s
    · exact sameButDraft_addElement s _

theorem sameButDraft_addImage (env : Environment) (attrs : Attributes) (s : State) :
    SameButDraft s (s.addImage env attrs) := by
  unfold addImage
  dsimp only
  split
  · split
    · exact sameButDraft_addMedia env _ _ s
    · exact .refl s
  · split
    · split
      · exact sameButDraft_addElement s _
      · exact .refl s
    · exact .refl s

theorem sameButDraft_addHighlightedImage (env : Environment) (attrs : Attributes) (s : State) :
    SameButDraft s (s.addHighlightedImage env attrs) := by
  unfold addHighlightedImage
  split
  · exact .refl s
  · split
    · exact .refl s
    · exact sameButDraft_addMedia env _ _ s

theorem sameButDraft_printName (env : Environment) (attrs : Attributes) (s : State) :
    SameButDraft s (s.printName env attrs) := by
  unfold printName
  dsimp only
  split
  · exact .refl s
  · split <;> exact sameButDraft_addText s _

theorem sameButDraft_printValue (env : Environment) (attrs : Attributes) (s : State) :
    SameButDraft s (s.printValue env attrs) := by
  unfold printValue
  split
  · exact .refl s
  · exact sameButDraft_addText s _
  · exact sameButDraft_addText s _
  · exact sameButDraft_addText s _

theorem sameButDraft_printGeneration (env : Environment) (s : State) :
    SameButDraft s (s.printGeneration env) :=
  sameButDraft_addText s _

theorem sameButDraft_printTotal (s : State) : SameButDraft s s.printTotal := by
  unfold printTotal
  split <;> exact sameButDraft_addText s _

/-! ## Handlers that do not touch the frame -/

theorem SameButDraft.frame_eq {s t : State} (h : SameButDraft s t) : t.frame = s.frame :=
  calc t.frame = ({ s with draft := t.draft } : State).frame := congrArg frame h
    _ = s.frame := rfl

@[simp] theorem frame_addText (s : State) (text : String) : (s.addText text).frame = s.frame :=
  (sameButDraft_addText s text).frame_eq

@[simp] theorem frame_attach (s : State) (id : ElementId) : (s.attach id).frame = s.frame :=
  (sameButDraft_attach s id).frame_eq

@[simp] theorem frame_addElement (s : State) (element : Element) :
    (s.addElement element).frame = s.frame :=
  (sameButDraft_addElement s element).frame_eq

@[simp] theorem frame_breakLine (s : State) : s.breakLine.frame = s.frame :=
  s.sameButDraft_breakLine.frame_eq

@[simp] theorem frame_addImage (env : Environment) (attrs : Attributes) (s : State) :
    (s.addImage env attrs).frame = s.frame :=
  (s.sameButDraft_addImage env attrs).frame_eq

@[simp] theorem frame_addHighlightedImage (env : Environment) (attrs : Attributes) (s : State) :
    (s.addHighlightedImage env attrs).frame = s.frame :=
  (s.sameButDraft_addHighlightedImage env attrs).frame_eq

@[simp] theorem frame_printName (env : Environment) (attrs : Attributes) (s : State) :
    (s.printName env attrs).frame = s.frame :=
  (s.sameButDraft_printName env attrs).frame_eq

@[simp] theorem frame_printValue (env : Environment) (attrs : Attributes) (s : State) :
    (s.printValue env attrs).frame = s.frame :=
  (s.sameButDraft_printValue env attrs).frame_eq

@[simp] theorem frame_printVariable (env : Environment) (attrs : Attributes) (s : State) :
    (s.printVariable env attrs).frame = s.frame :=
  frame_addText s _

@[simp] theorem frame_printGeneration (env : Environment) (s : State) :
    (s.printGeneration env).frame = s.frame :=
  (s.sameButDraft_printGeneration env).frame_eq

@[simp] theorem frame_printTotal (s : State) : s.printTotal.frame = s.frame :=
  s.sameButDraft_printTotal.frame_eq

theorem frame_assign {env : Environment} {attrs : Attributes} {location : Location}
    {s t : State} (h : s.assign env attrs location = .ok t) : t.frame = s.frame := by
  unfold assign at h
  dsimp only at h
  split at h
  · cases h
  · cases h
    rfl

theorem frame_endDocument {s t : State} (h : s.endDocument = .ok t) : t.frame = s.frame := by
  unfold endDocument at h
  dsimp only at h
  split at h
  · cases h
    rfl
  · cases h

/-! ## Starts and ends that belong together -/

/-- The end of an element that text is printed into restores the frame. -/
theorem frame_endText {s t : State} {element : Element}
    (h : t.frame = (s.beginText element).frame) : t.endText.frame = s.frame := by
  have hprints : t.printsBefore = s.prints :: s.printsBefore := congrArg Frame.printsBefore h
  -- first the switch for printing, then the element gets its place
  have hrestored : t.endPrinting.frame = s.frame := by
    rw [endPrinting, hprints]
    exact congrArg
      (fun f : Frame => { f with prints := s.prints, printsBefore := s.printsBefore }) h
  unfold endText
  dsimp only
  split
  · rw [frame_attach, hrestored]
  · exact hrestored

/-- The end of a text box restores the frame. -/
theorem frame_endBox {s t : State} {attrs : Attributes}
    (h : t.frame = (s.beginBox attrs).frame) : t.endBox.frame = s.frame := by
  have hprints : t.printsBefore = s.prints :: s.printsBefore := congrArg Frame.printsBefore h
  have hcontainers : t.containers = (s.draft.arena.alloc (.textBox (textBoxOf attrs))).1 ::
      s.containers := congrArg Frame.containers h
  unfold endBox
  rw [endPrinting, hprints]
  dsimp only
  rw [hcontainers]
  dsimp only
  rw [frame_attach]
  exact congrArg (fun f : Frame =>
    { f with prints := s.prints, printsBefore := s.printsBefore, containers := s.containers }) h

@[simp] theorem frame_placeFootnote (s : State) (id : ElementId) (text : String) :
    (s.placeFootnote id text).frame = s.frame :=
  frame_attach _ id

/-- The end of a footnote that was filled restores the frame. -/
theorem frame_endFootnote {s t : State} {style : String}
    (h : t.frame = (s.openFootnote style).frame) : t.endFootnote.frame = s.frame := by
  have hprints : t.printsBefore = s.prints :: s.printsBefore := congrArg Frame.printsBefore h
  have hframes : t.footnoteFrames = FootnoteFrame.visible
      (s.draft.arena.alloc (.footnote (.ofStyle style))).1 s.current :: s.footnoteFrames :=
    congrArg Frame.footnoteFrames h
  have hrestored : ({ t with footnoteFrames := s.footnoteFrames }).endPrinting.frame = s.frame := by
    rw [endPrinting]
    dsimp only
    rw [hprints]
    exact congrArg (fun f : Frame =>
      { f with
        prints := s.prints, printsBefore := s.printsBefore
        footnoteFrames := s.footnoteFrames }) h
  unfold endFootnote
  rw [hframes]
  dsimp only
  split
  · exact (frame_placeFootnote _ _ _).trans hrestored
  · exact hrestored

end State

/-! ## Whole elements -/

/-- The start of an element that is not counted and opens nothing does not
touch the frame. -/
theorem frame_startElement {env : Environment} {head : Head} {s t : State}
    (hc : head.tag.isCounted = false) (ho : head.tag.isOpening = false)
    (h : startElement env head s = .ok t) : t.frame = s.frame := by
  obtain ⟨tag, name, attributes, location⟩ := head
  cases tag with
  | gedcom | ifTag | footnote | repeatTag | facts | list | relatives => cases hc
  | cell | text | textBox => cases ho
  | setVar => exact State.frame_assign (by rwa [startElement] at h)
  | doc | style | header | body | footer | title | description | other =>
    cases h
    rfl
  | _ =>
    rw [startElement, Except.ok.injEq] at h
    subst h
    simp

/-- The start of an element that is not counted does not touch the counters. -/
theorem suppression_startElement {env : Environment} {head : Head} {s t : State}
    (hc : head.tag.isCounted = false) (h : startElement env head s = .ok t) :
    t.suppression = s.suppression := by
  cases ho : head.tag.isOpening with
  | false => exact congrArg Frame.suppression (frame_startElement hc ho h)
  | true =>
    obtain ⟨tag, name, attributes, location⟩ := head
    cases tag with
    | cell | text | textBox =>
      cases h
      rfl
    | _ => cases ho

/-- The end of an element that is not counted and opens nothing does not touch
the frame. -/
theorem frame_endElement {env : Environment} {head : Head} {body : State → Outcome}
    {s t : State} (hc : head.tag.isCounted = false) (ho : head.tag.isOpening = false)
    (h : endElement env head body s = .ok t) : t.frame = s.frame := by
  obtain ⟨tag, name, attributes, location⟩ := head
  cases tag with
  | gedcom | ifTag | footnote | repeatTag | facts | list | relatives => cases hc
  | cell | text | textBox => cases ho
  | doc => exact State.frame_endDocument h
  | _ =>
    cases h
    rfl

/-- **An element that is not counted leaves the frame as it found it**, provided
that its content does. -/
theorem frame_of_bracket {env : Environment} {head : Head} {body : State → Outcome}
    {s t u v : State} (h : head.tag.isCounted = false)
    (hstart : startElement env head s = .ok t) (hbody : u.frame = t.frame)
    (hend : endElement env head body u = .ok v) : v.frame = s.frame := by
  cases ho : head.tag.isOpening with
  | false =>
    calc v.frame = u.frame := frame_endElement h ho hend
      _ = t.frame := hbody
      _ = s.frame := frame_startElement h ho hstart
  | true =>
    obtain ⟨tag, name, attributes, location⟩ := head
    cases tag with
    | cell | text =>
      cases hstart
      cases hend
      exact State.frame_endText hbody
    | textBox =>
      cases hstart
      cases hend
      exact State.frame_endBox hbody
    | _ => cases ho

end Report

end Lineage
