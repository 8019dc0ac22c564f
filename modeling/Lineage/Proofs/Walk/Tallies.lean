import Lineage.Proofs.Walk.Edit

/-!
# What a run counts

Three numbers of a state are counted while a report is written: the size of the
last list, how many of its records may not be shown, and how deep the bodies are
nested that are being carried out for an item. They are single fields of the state,
and every repeated block writes to them; nothing else does:

> `tallies_startElement`, `tallies_endElement`: an element leaves the three numbers
> alone, in success or failure, unless it is the end of a repeated block.

So what is to be known about one of them (`view`) is a question about repeated
blocks alone. `Keeps` says of a part of a template that it leaves the view as it
was.
-/

namespace Lineage.Report

open Template (Head Node Tag)

/-- The numbers that are counted during a run. -/
structure Tallies where
  total : Nat
  hidden : Nat
  depth : Nat

namespace State

variable {env : Environment}

/-- What has been counted so far. -/
def tallies (s : State) : Tallies :=
  { total := s.listTotal, hidden := s.listPrivate, depth := s.replayDepth }

/-! ## Handlers -/

theorem SameButDraft.tallies_eq {s t : State} (h : SameButDraft s t) : t.tallies = s.tallies :=
  calc t.tallies = ({ s with draft := t.draft } : State).tallies := congrArg tallies h
    _ = s.tallies := rfl

@[simp] theorem tallies_addText (s : State) (text : String) :
    (s.addText text).tallies = s.tallies :=
  (s.sameButDraft_addText text).tallies_eq

@[simp] theorem tallies_attach (s : State) (id : ElementId) :
    (s.attach id).tallies = s.tallies :=
  (s.sameButDraft_attach id).tallies_eq

@[simp] theorem tallies_printVariable (attrs : Attributes) (s : State) :
    (s.printVariable env attrs).tallies = s.tallies :=
  tallies_addText s _

theorem tallies_switchTo (s : State) (text : String) :
    (s.switchTo text).tallies = s.tallies := by
  unfold switchTo
  rfl

@[simp] theorem tallies_beginSwitch (attrs : Attributes) (s : State) :
    (s.beginSwitch env attrs).tallies = s.tallies := by
  unfold beginSwitch
  dsimp only
  split
  · rfl
  · split
    · rfl
    · exact s.tallies_switchTo _

theorem tallies_endSwitch (s : State) : s.endSwitch.tallies = s.tallies := by
  unfold endSwitch
  split
  · rfl
  · split <;> rfl

theorem tallies_beginCondition (attrs : Attributes) (location : Location) (s : State) :
    (s.beginCondition env attrs location).state.tallies = s.tallies := by
  unfold beginCondition
  dsimp only
  split
  · rfl
  · split <;> rfl

theorem tallies_assign (attrs : Attributes) (location : Location) (s : State) :
    (s.assign env attrs location).state.tallies = s.tallies := by
  unfold assign
  dsimp only
  split <;> rfl

@[simp] theorem tallies_beginFootnote (attrs : Attributes) (s : State) :
    (s.beginFootnote env attrs).tallies = s.tallies := by
  unfold beginFootnote
  split
  · rfl
  · split
    · rfl
    · split <;> rfl

theorem tallies_endPrinting (s : State) : s.endPrinting.tallies = s.tallies := by
  unfold endPrinting
  split <;> rfl

theorem tallies_endText (s : State) : s.endText.tallies = s.tallies := by
  unfold endText
  dsimp only
  split
  · rw [tallies_attach, tallies_endPrinting]
  · exact tallies_endPrinting s

theorem tallies_endBox (s : State) : s.endBox.tallies = s.tallies := by
  unfold endBox
  dsimp only
  split
  · exact tallies_endPrinting s
  · rw [tallies_attach]
    exact tallies_endPrinting s

theorem tallies_endFootnote (s : State) : s.endFootnote.tallies = s.tallies := by
  unfold endFootnote
  split
  · rfl
  · rfl
  · dsimp only
    split
    · -- the footnote is registered and gets its place
      unfold placeFootnote
      dsimp only
      refine (tallies_attach _ _).trans ?_
      exact tallies_endPrinting _
    · exact tallies_endPrinting _

theorem tallies_endDocument (s : State) : s.endDocument.state.tallies = s.tallies := by
  unfold endDocument
  dsimp only
  split <;> rfl

@[simp] theorem tallies_beginParts (attrs : Attributes) (s : State) :
    (s.beginParts env attrs).tallies = s.tallies := by
  unfold beginParts
  dsimp only
  split
  · split
    · rfl
    · exact tallies_addText _ _
    · rfl
  · rfl

@[simp] theorem tallies_beginFacts (attrs : Attributes) (s : State) :
    (s.beginFacts env attrs).tallies = s.tallies := by
  unfold beginFacts
  dsimp only
  split <;> rfl

theorem tallies_beginList (attrs : Attributes) (s : State) :
    (s.beginList env attrs).state.tallies = s.tallies := by
  unfold beginList
  dsimp only
  split
  · split <;> rfl
  · rfl

@[simp] theorem tallies_beginRelatives (attrs : Attributes) (s : State) :
    (s.beginRelatives env attrs).tallies = s.tallies := by
  unfold beginRelatives
  dsimp only
  split <;> rfl

end State

/-! ## The start and the end of an element -/

/-- **No element counts anything at its start.** -/
theorem tallies_startElement (env : Environment) (head : Head) (s : State) :
    (startElement env head s).state.tallies = s.tallies := by
  obtain ⟨tag, name, attributes, location⟩ := head
  cases tag with
  | ifTag =>
    rw [startElement]
    exact State.tallies_beginCondition _ _ s
  | setVar =>
    rw [startElement]
    exact State.tallies_assign _ _ s
  | list =>
    rw [startElement]
    exact State.tallies_beginList _ s
  | doc | style | header | body | footer | cell | text | textBox | title | description | other =>
    rfl
  | br =>
    rw [startElement, Outcome.state]
    exact s.sameButDraft_breakLine.tallies_eq
  | line | newPage | footnoteTexts =>
    rw [startElement, Outcome.state]
    exact (s.sameButDraft_addElement _).tallies_eq
  | image =>
    rw [startElement, Outcome.state]
    exact (s.sameButDraft_addImage env _).tallies_eq
  | highlightedImage =>
    rw [startElement, Outcome.state]
    exact (s.sameButDraft_addHighlightedImage env _).tallies_eq
  | getPersonName =>
    rw [startElement, Outcome.state]
    exact (s.sameButDraft_printName env _).tallies_eq
  | gedcomValue =>
    rw [startElement, Outcome.state]
    exact (s.sameButDraft_printValue env _).tallies_eq
  | generation =>
    rw [startElement, Outcome.state]
    exact (s.sameButDraft_printGeneration env).tallies_eq
  | listTotal =>
    rw [startElement, Outcome.state]
    exact s.sameButDraft_printTotal.tallies_eq
  | _ => simp [startElement, Outcome.state]

/-- **Only the end of a repeated block counts anything.** -/
theorem tallies_endElement (env : Environment) {head : Head} (h : head.tag.isRepeat = false)
    (body : State → Outcome) (s : State) :
    (endElement env head body s).state.tallies = s.tallies := by
  obtain ⟨tag, name, attributes, location⟩ := head
  cases tag with
  | repeatTag | facts | list | relatives => cases h
  | doc => exact s.tallies_endDocument
  | cell | text => exact s.tallies_endText
  | textBox => exact s.tallies_endBox
  | gedcom => exact s.tallies_endSwitch
  | footnote => exact s.tallies_endFootnote
  | _ => rfl

/-! ## Parts of a template that leave a number as it was -/

variable {α : Type}

/-- Whether a part of a template leaves a view of the numbers as it was, in success
or failure. -/
def Keeps (view : Tallies → α) (body : State → Outcome) : Prop :=
  ∀ s : State, view (body s).state.tallies = view s.tallies

/-- Two parts in sequence keep what each of them keeps. -/
theorem Keeps.bind {view : Tallies → α} {body next : State → Outcome} (hbody : Keeps view body)
    (hnext : Keeps view next) : Keeps view fun s => body s >>= next := by
  intro s
  have hs := hbody s
  dsimp only
  cases hrun : body s with
  | ok t =>
    rw [hrun] at hs
    rw [Outcome.ok_bind]
    exact (hnext t).trans hs
  | error failure =>
    rw [hrun] at hs
    exact hs

/-- Steps for one item after the other keep what each step keeps. -/
theorem Keeps.foldlM {β : Type} {view : Tallies → α} {step : State → β → Outcome}
    (h : ∀ item, Keeps view fun s => step s item) (items : List β) :
    Keeps view fun s => items.foldlM step s := by
  intro s
  dsimp only
  induction items generalizing s with
  | nil => rfl
  | cons item rest ih =>
    rw [List.foldlM_cons]
    exact (h item).bind ih s

/-- No start of an element changes any of the numbers. -/
theorem keeps_enter (view : Tallies → α) (env : Environment) (head : Head) :
    Keeps view (enter env head) := by
  intro s
  unfold enter
  split
  · exact congrArg view (tallies_startElement env head s)
  · rfl

end Lineage.Report
