import Lineage.Proofs.Walk.Trail

/-!
# What a walk hands over

While a report is written, its elements and footnotes are kept in the state of
the run. Only the end of the document hands them over to the output; what other
elements tell the output at once (the page format, styles, the title) is no part
of its contents.

`Withholds` says of a part of a template that it hands nothing over, in success
or failure. It goes from the content of an element to the element, with all the
repetitions that the end of the element may bring, unless the element is the
document:

> `withholds_carryOut`: an element that is not the document hands nothing over,
> if its content does not.

What the end of the document does is the other half: `endDocument_of_fresh`.
-/

namespace Lineage

/-- What an output has been handed: the elements of its sections, its footnotes,
and whether it is finished. -/
structure Contents where
  header : List ElementTree := []
  body : List ElementTree := []
  footer : List ElementTree := []
  footnotes : List FootnoteEntry := []
  finished : Bool := false

/-- The elements of a section. -/
def Contents.elements (c : Contents) : Section → List ElementTree
  | .header => c.header
  | .body => c.body
  | .footer => c.footer

namespace Output

/-- What an output has been handed so far. -/
def contents (out : Output) : Contents :=
  { header := out.header
    body := out.body
    footer := out.footer
    footnotes := out.footnotes
    finished := out.finished }

theorem elements_contents (out : Output) (place : Section) :
    out.contents.elements place = out.elements place := by
  cases place <;> rfl

/-- Elements that are added one by one to a section come after those that are
there. -/
theorem foldl_add (place : Section) (trees : List ElementTree) (out : Output) :
    trees.foldl (fun out tree => out.add place tree) out =
      match place with
      | .header => { out with header := out.header ++ trees }
      | .body => { out with body := out.body ++ trees }
      | .footer => { out with footer := out.footer ++ trees } := by
  induction trees generalizing out with
  | nil => cases place <;> simp
  | cons tree rest ih =>
    rw [List.foldl_cons, ih]
    cases place <;> simp [add]

/-- The elements of a document come after those that are there. -/
theorem addDraft_eq (out : Output) (draft : Draft) :
    out.addDraft draft =
      { out with
        header := out.header ++ draft.trees .header
        body := out.body ++ draft.trees .body
        footer := out.footer ++ draft.trees .footer } := by
  rw [addDraft, Section.all, List.foldl_cons, List.foldl_cons, List.foldl_cons, List.foldl_nil,
    foldl_add, foldl_add, foldl_add]

end Output

namespace Report

open Template (Head Node Tag)

namespace State

variable {env : Environment}

/-! ## Handlers that do not touch the output -/

theorem SameButDraft.output_eq {s t : State} (h : SameButDraft s t) : t.output = s.output :=
  calc t.output = ({ s with draft := t.draft } : State).output := congrArg output h
    _ = s.output := rfl

@[simp] theorem output_addText (s : State) (text : String) :
    (s.addText text).output = s.output :=
  (s.sameButDraft_addText text).output_eq

@[simp] theorem output_attach (s : State) (id : ElementId) : (s.attach id).output = s.output :=
  (s.sameButDraft_attach id).output_eq

@[simp] theorem output_addElement (s : State) (element : Element) :
    (s.addElement element).output = s.output :=
  (s.sameButDraft_addElement element).output_eq

@[simp] theorem output_breakLine (s : State) : s.breakLine.output = s.output :=
  s.sameButDraft_breakLine.output_eq

@[simp] theorem output_addImage (attrs : Attributes) (s : State) :
    (s.addImage env attrs).output = s.output :=
  (s.sameButDraft_addImage env attrs).output_eq

@[simp] theorem output_addHighlightedImage (attrs : Attributes) (s : State) :
    (s.addHighlightedImage env attrs).output = s.output :=
  (s.sameButDraft_addHighlightedImage env attrs).output_eq

@[simp] theorem output_printName (attrs : Attributes) (s : State) :
    (s.printName env attrs).output = s.output :=
  (s.sameButDraft_printName env attrs).output_eq

@[simp] theorem output_printValue (attrs : Attributes) (s : State) :
    (s.printValue env attrs).output = s.output :=
  (s.sameButDraft_printValue env attrs).output_eq

@[simp] theorem output_printVariable (attrs : Attributes) (s : State) :
    (s.printVariable env attrs).output = s.output :=
  output_addText s _

@[simp] theorem output_printGeneration (s : State) : (s.printGeneration env).output = s.output :=
  (s.sameButDraft_printGeneration env).output_eq

@[simp] theorem output_printTotal (s : State) : s.printTotal.output = s.output :=
  s.sameButDraft_printTotal.output_eq

@[simp] theorem output_endPrinting (s : State) : s.endPrinting.output = s.output := by
  unfold endPrinting
  split <;> rfl

@[simp] theorem output_endText (s : State) : s.endText.output = s.output := by
  unfold endText
  dsimp only
  split
  · rw [output_attach, output_endPrinting]
  · exact output_endPrinting s

@[simp] theorem output_endBox (s : State) : s.endBox.output = s.output := by
  unfold endBox
  dsimp only
  split
  · exact output_endPrinting s
  · rw [output_attach]
    exact output_endPrinting s

@[simp] theorem output_beginFootnote (attrs : Attributes) (s : State) :
    (s.beginFootnote env attrs).output = s.output := by
  obtain hskip | ⟨style, hopen⟩ := s.beginFootnote_cases env attrs
  · rw [hskip]
    rfl
  · rw [hopen]
    rfl

@[simp] theorem output_endFootnote (s : State) : s.endFootnote.output = s.output := by
  unfold endFootnote
  split
  · rfl
  · rfl
  · dsimp only
    split
    · unfold placeFootnote
      dsimp only
      rw [output_attach]
      exact output_endPrinting _
    · exact output_endPrinting _

@[simp] theorem output_switchTo (s : State) (text : String) :
    (s.switchTo text).output = s.output := by
  unfold switchTo
  rfl

@[simp] theorem output_beginSwitch (attrs : Attributes) (s : State) :
    (s.beginSwitch env attrs).output = s.output := by
  unfold beginSwitch
  dsimp only
  split
  · rfl
  · split
    · rfl
    · exact output_switchTo s _

@[simp] theorem output_endSwitch (s : State) : s.endSwitch.output = s.output := by
  unfold endSwitch
  split
  · rfl
  · split <;> rfl

theorem output_beginCondition (attrs : Attributes) (location : Location) (s : State) :
    (s.beginCondition env attrs location).state.output = s.output := by
  unfold beginCondition
  dsimp only
  split
  · rfl
  · split <;> rfl

theorem output_assign (attrs : Attributes) (location : Location) (s : State) :
    (s.assign env attrs location).state.output = s.output := by
  unfold assign
  dsimp only
  split <;> rfl

@[simp] theorem output_beginParts (attrs : Attributes) (s : State) :
    (s.beginParts env attrs).output = s.output := by
  unfold beginParts
  dsimp only
  split
  · split
    · rfl
    · exact output_addText _ _
    · rfl
  · rfl

@[simp] theorem output_beginFacts (attrs : Attributes) (s : State) :
    (s.beginFacts env attrs).output = s.output := by
  unfold beginFacts
  dsimp only
  split <;> rfl

theorem output_beginList (attrs : Attributes) (s : State) :
    (s.beginList env attrs).state.output = s.output := by
  unfold beginList
  dsimp only
  split
  · split <;> rfl
  · rfl

@[simp] theorem output_beginRelatives (attrs : Attributes) (s : State) :
    (s.beginRelatives env attrs).output = s.output := by
  unfold beginRelatives
  dsimp only
  split <;> rfl

@[simp] theorem output_beginItems (s : State) (items : Items) :
    (s.beginItems items).output = s.output := by
  cases items <;> rfl

theorem output_of_takeUp? {s t : State} {item : Item} (h : s.takeUp? env item = some t) :
    t.output = s.output := by
  cases item with
  | part text | fact fact | relative relative =>
    cases h
    rfl
  | record record =>
    rw [takeUp?] at h
    split at h
    · cases h
      rfl
    · cases h

end State

/-! ## Elements -/

/-- No element hands anything over at its start. -/
theorem contents_startElement (env : Environment) (head : Head) (s : State) :
    (startElement env head s).state.output.contents = s.output.contents := by
  obtain ⟨tag, name, attributes, location⟩ := head
  cases tag with
  | ifTag =>
    rw [startElement]
    exact congrArg Output.contents (State.output_beginCondition _ _ s)
  | setVar =>
    rw [startElement]
    exact congrArg Output.contents (State.output_assign _ _ s)
  | list =>
    rw [startElement]
    exact congrArg Output.contents (State.output_beginList _ s)
  | doc | style | header | body | footer | cell | text | textBox | title | description | other =>
    rfl
  | _ => simp [startElement, Outcome.state]

theorem contents_enter (env : Environment) (head : Head) (s : State) :
    (enter env head s).state.output.contents = s.output.contents := by
  unfold enter
  split
  · exact contents_startElement env head s
  · rfl

/-- Whether a part of a template hands nothing over. -/
def Withholds (body : State → Outcome) : Prop :=
  ∀ s : State, (body s).state.output.contents = s.output.contents

variable {env : Environment} {head : Head} {body : State → Outcome}

/-- Two parts in sequence hand nothing over if neither does. -/
theorem Withholds.bind {next : State → Outcome} (hbody : Withholds body)
    (hnext : Withholds next) : Withholds fun s => body s >>= next := by
  intro s
  dsimp only
  have hs := hbody s
  cases hrun : body s with
  | ok t =>
    rw [hrun] at hs
    rw [Outcome.ok_bind, hnext t]
    exact hs
  | error failure =>
    rw [hrun] at hs
    exact hs

theorem Withholds.replay (h : Withholds body) : Withholds (State.replay env body) := by
  intro s
  unfold State.replay
  split
  · rfl
  · have hs := h { s with replayDepth := s.replayDepth + 1 }
    split
    next t ht =>
      rw [ht] at hs
      exact hs
    next failure hfailure =>
      rw [hfailure] at hs
      exact hs

theorem Withholds.replayItem (h : Withholds body) (item : Item) :
    Withholds fun s => State.replayItem env body s item := by
  intro s
  dsimp only
  unfold State.replayItem
  split
  next t ht => rw [h.replay t, State.output_of_takeUp? ht]
  next => rfl

/-- A body that hands nothing over does not do so for any number of items. -/
theorem Withholds.replayItems (env : Environment) (h : Withholds body) (items : Items) :
    Withholds fun s => State.replayItems env body s items := by
  intro s
  dsimp only
  rw [State.replayItems_eq, ← State.output_beginItems s items]
  generalize s.beginItems items = t
  induction items.toList generalizing t with
  | nil => rfl
  | cons item rest ih =>
    rw [List.foldlM_cons]
    exact (h.replayItem item).bind ih t

theorem Withholds.endRepeat (h : Withholds body) : Withholds (State.endRepeat env body) := by
  intro s
  unfold State.endRepeat
  dsimp only
  split
  · rfl
  · split
    · rfl
    next items rest _ =>
      have hs := h.replayItems env items
        { s with suppression.repeats := s.suppression.repeats - 1, collected := rest }
      dsimp only at hs
      split
      next done hdone =>
        rw [hdone] at hs
        exact hs
      next failure hfailure =>
        rw [hfailure] at hs
        exact hs

/-- The end of an element other than the document hands nothing over; only the end
of a repeated block carries its content out. -/
theorem withholds_leave (hdoc : head.tag ≠ .doc)
    (h : head.tag.isRepeat = true → Withholds body) : Withholds (leave env head body) := by
  intro s
  unfold leave
  split
  · obtain ⟨tag, name, attributes, location⟩ := head
    cases tag with
    | doc => exact absurd rfl hdoc
    | repeatTag | facts | list | relatives => exact (h rfl).endRepeat s
    | cell | text => exact congrArg Output.contents s.output_endText
    | textBox => exact congrArg Output.contents s.output_endBox
    | gedcom => exact congrArg Output.contents s.output_endSwitch
    | footnote => exact congrArg Output.contents s.output_endFootnote
    | _ => rfl
  · rfl

/-- **An element that is not the document hands nothing over**, if its content
does not. -/
theorem withholds_carryOut (env : Environment) (hdoc : head.tag ≠ .doc) (h : Withholds body) :
    Withholds (carryOut env head body) :=
  (show Withholds (enter env head) from contents_enter env head).bind
    (h.bind (withholds_leave hdoc fun _ => h))

/-! ## The end of the document -/

/-- What the end of a document hands over: its elements, section by section, and
the table of footnotes. -/
def State.delivery (s : State) : Contents :=
  { header := s.draft.trees .header
    body := s.draft.trees .body
    footer := s.draft.trees .footer
    footnotes := s.footnotes.entries
    finished := true }

theorem State.elements_delivery (s : State) (place : Section) :
    s.delivery.elements place = s.draft.trees place := by
  cases place <;> rfl

/-- **The end of a document succeeds and hands the document over**, if nothing has
been handed over before. -/
theorem endDocument_of_fresh {s : State} (h : s.output.contents = {}) :
    ∃ output, s.endDocument = .ok { s with output } ∧ output.contents = s.delivery := by
  have hheader : s.output.header = [] := congrArg Contents.header h
  have hbody : s.output.body = [] := congrArg Contents.body h
  have hfooter : s.output.footer = [] := congrArg Contents.footer h
  have hopen : s.output.finished = false := congrArg Contents.finished h
  refine ⟨{ s.output.addDraft s.draft with
      footnotes := s.footnotes.entries, finished := true }, ?_, ?_⟩
  · unfold State.endDocument
    rw [Output.addDraft_eq]
    dsimp only [Output.finish]
    rw [hopen]
    rfl
  · rw [Output.addDraft_eq, Output.contents, State.delivery, hheader, hbody, hfooter]
    rfl

end Report

end Lineage
