import Mathlib.Logic.Relation
import Lineage.Proofs.Document.Arena
import Lineage.Proofs.Walk.History

/-!
# What a walk does to its document

Of all that a walk does, the document sees little: text is written, the section
changes, an element is added, and cells, runs of text, text boxes and footnotes
are opened and closed. `Edit` has these changes one by one, and keeps in view
which elements are open, the innermost first. A change to anything but the
document is idle (`Edit.idle`).

The handlers of elements are sequences of edits; those that open or close
something are single ones. How elements are nested in each other can be
restricted by a rule, which the opening edits have to obey.

`Trail` joins sequences of edits to a list of states that they lead through, so
that what holds at each moment of a trail holds of each state of the list.
-/

namespace Lineage

open Template (Head Node Tag)

namespace Element

/-- Whether an element is a cell or a run of text. -/
def isText : Element → Bool
  | cell _ | text _ => true
  | _ => false

/-- Whether an element has neither text nor further elements in it, so that it
is placed as soon as it is created. -/
def isPlain : Element → Bool
  | line _ | image _ | footnoteTexts | newPage => true
  | _ => false

end Element

namespace Report

/-- A kind of element that stays open while its content is carried out. -/
inductive Kind where
  | text
  | box
  | footnote
deriving DecidableEq, Repr

/-- An open element: a cell or a run of text, a text box, or a footnote with the
element that was filled before it. -/
inductive Opened where
  | text (id : Nat)
  | box (id : Nat)
  | footnote (id : Nat) (previous : Option ElementId)
deriving DecidableEq, Repr

namespace Opened

/-- The number of an open element. -/
def id : Opened → Nat
  | text id | box id | footnote id _ => id

/-- The kind of an open element. -/
def kind : Opened → Kind
  | text _ => .text
  | box _ => .box
  | footnote _ _ => .footnote

end Opened

/-- Which kinds of elements may be opened inside open elements of some kinds,
the innermost first. -/
abbrev NestingRule := Kind → List Kind → Bool

end Report

/-! ## Templates that obey a rule -/

/-- What elements with the tag open. -/
def Template.Tag.opens? : Tag → Option Report.Kind
  | cell | text => some .text
  | textBox => some .box
  | footnote => some .footnote
  | _ => none

/-- What is open inside an element with the tag. -/
def Template.Tag.within (tag : Tag) (outer : List Report.Kind) : List Report.Kind :=
  tag.opens?.toList ++ outer

namespace Template.Node

mutual

/-- Whether a node obeys a rule inside open elements of some kinds. -/
def obeys (rule : Report.NestingRule) (outer : List Report.Kind) : Node → Bool
  | text _ => true
  | element head children =>
    head.tag.opens?.all (rule · outer) && obeysIn rule (head.tag.within outer) children

/-- Whether the nodes of a list obey a rule. -/
def obeysIn (rule : Report.NestingRule) (outer : List Report.Kind) : List Node → Bool
  | [] => true
  | node :: rest => obeys rule outer node && obeysIn rule outer rest

end

theorem obeysIn_text {rule : Report.NestingRule} {outer : List Report.Kind} {s : String}
    {rest : List Node} (h : obeysIn rule outer (.text s :: rest) = true) :
    obeysIn rule outer rest = true := by
  rwa [obeysIn, obeys, Bool.true_and] at h

theorem obeysIn_element {rule : Report.NestingRule} {outer : List Report.Kind} {head : Head}
    {children rest : List Node} (h : obeysIn rule outer (.element head children :: rest) = true) :
    (∀ kind, head.tag.opens? = some kind → rule kind outer = true) ∧
      obeysIn rule (head.tag.within outer) children = true ∧ obeysIn rule outer rest = true := by
  rw [obeysIn, obeys, Bool.and_eq_true, Bool.and_eq_true] at h
  obtain ⟨⟨hhead, hchildren⟩, hrest⟩ := h
  refine ⟨?_, hchildren, hrest⟩
  intro kind hkind
  rwa [hkind, Option.all_some] at hhead

/-- All templates obey the rule that allows everything. -/
theorem obeysIn_true (nodes : List Node) (outer : List Report.Kind) :
    obeysIn (fun _ _ => true) outer nodes = true := by
  induction nodes using Node.forest generalizing outer with
  | nil => rw [obeysIn]
  | text s rest ih => rw [obeysIn, obeys, ih, Bool.and_true]
  | element head children rest ihChildren ihRest =>
    rw [obeysIn, obeys, ihChildren, ihRest, Bool.and_true, Bool.and_true]
    cases head.tag.opens? <;> rfl

end Template.Node

namespace Report

/-! ## Edits -/

/-- The part of a state in which the document comes into being. -/
structure Desk where
  draft : Draft
  place : Section
  containers : List ElementId
  current : Option ElementId
  openFootnotes : List (ElementId × Option ElementId)
  footnotes : FootnoteTable

/-- An open footnote that is filled, with the element that was filled before
it. -/
def FootnoteFrame.visible? : FootnoteFrame → Option (ElementId × Option ElementId)
  | visible footnote previous => some (footnote, previous)
  | hidden => none

/-- The part of a state in which the document comes into being. -/
def State.desk (s : State) : Desk :=
  { draft := s.draft
    place := s.place
    containers := s.containers
    current := s.current
    openFootnotes := s.footnoteFrames.filterMap FootnoteFrame.visible?
    footnotes := s.footnotes }

/-- The number that the next element gets. -/
def State.nextId (s : State) : Nat :=
  s.draft.arena.size

/-- A moment of a walk: the state, and the elements that are open. -/
structure Moment where
  state : State
  opened : List Opened

/-- The kinds of the open elements. -/
def kinds (opened : List Opened) : List Kind :=
  opened.map Opened.kind

/-- A change to the document, or to anything but the document. -/
inductive Edit (rule : NestingRule) : Moment → Moment → Prop
  | idle {s t : State} {o : List Opened} (desk : t.desk = s.desk) : Edit rule ⟨s, o⟩ ⟨t, o⟩
  | write (s : State) (o : List Opened) (text : String) : Edit rule ⟨s, o⟩ ⟨s.addText text, o⟩
  | turn (s : State) (o : List Opened) (place : Section) :
      Edit rule ⟨s, o⟩ ⟨s.enterSection place, o⟩
  | add (s : State) (o : List Opened) {e : Element} (plain : e.isPlain = true) :
      Edit rule ⟨s, o⟩ ⟨s.addElement e, o⟩
  | openText (s : State) {o : List Opened} {e : Element} (text : e.isText = true)
      (allowed : rule .text (kinds o) = true) :
      Edit rule ⟨s, o⟩ ⟨s.beginText e, .text s.nextId :: o⟩
  | closeText (s : State) (o : List Opened) (id : Nat) :
      Edit rule ⟨s, .text id :: o⟩ ⟨s.endText, o⟩
  | openBox (s : State) {o : List Opened} (attrs : Attributes)
      (allowed : rule .box (kinds o) = true) :
      Edit rule ⟨s, o⟩ ⟨s.beginBox attrs, .box s.nextId :: o⟩
  | closeBox {s : State} {id : Nat} {rest : List ElementId} (o : List Opened)
      (containers : s.containers = id :: rest) :
      Edit rule ⟨s, .box id :: o⟩ ⟨s.endBox, o⟩
  | openFootnote (s : State) {o : List Opened} (style : String)
      (allowed : rule .footnote (kinds o) = true) :
      Edit rule ⟨s, o⟩ ⟨s.openFootnote style, .footnote s.nextId s.current :: o⟩
  | closeFootnote {s : State} {id : Nat} {previous : Option ElementId}
      {rest : List FootnoteFrame} (o : List Opened)
      (frames : s.footnoteFrames = .visible id previous :: rest) :
      Edit rule ⟨s, .footnote id previous :: o⟩ ⟨s.endFootnote, o⟩

/-- Any number of edits. -/
abbrev Leads (rule : NestingRule) : Moment → Moment → Prop :=
  Relation.ReflTransGen (Edit rule)

/-- From one moment to another one by edits, through the given states. -/
inductive Trail (rule : NestingRule) : Moment → List State → Moment → Prop
  | stop {m n : Moment} (last : Leads rule m n) : Trail rule m [] n
  | pass {m n : Moment} {s : State} {o : List Opened} {states : List State}
      (next : Leads rule m ⟨s, o⟩) (rest : Trail rule ⟨s, o⟩ states n) :
      Trail rule m (s :: states) n

namespace Trail

variable {rule : NestingRule} {m n k : Moment} {states later : List State}

theorem leads (h : Trail rule m states n) : Leads rule m n := by
  induction h with
  | stop last => exact last
  | pass next _ ih => exact next.trans ih

/-- Edits may precede a trail. -/
theorem after (hm : Leads rule m n) (h : Trail rule n states k) : Trail rule m states k := by
  cases h with
  | stop last => exact .stop (hm.trans last)
  | pass next rest => exact .pass (hm.trans next) rest

theorem append (h : Trail rule m states n) (h' : Trail rule n later k) :
    Trail rule m (states ++ later) k := by
  induction h with
  | stop last => exact h'.after last
  | pass next _ ih => exact .pass next (ih h')

/-- All states of a trail are reached. -/
theorem reaches (h : Trail rule m states n) {s : State} (hs : s ∈ states) :
    ∃ o, Leads rule m ⟨s, o⟩ := by
  induction h with
  | stop => cases hs
  | @pass _ _ t o _ next _ ih =>
    rcases List.mem_cons.mp hs with rfl | hs
    · exact ⟨o, next⟩
    · obtain ⟨o', ho'⟩ := ih hs
      exact ⟨o', next.trans ho'⟩

/-- From every state of a trail the later ones are reached. -/
theorem pairwise (h : Trail rule m states n) :
    states.Pairwise fun s t => ∃ o o', Leads rule m ⟨s, o⟩ ∧ Leads rule ⟨s, o⟩ ⟨t, o'⟩ := by
  induction h with
  | stop => exact .nil
  | @pass _ _ s o _ next rest ih =>
    refine .cons ?_ (ih.imp ?_)
    · intro t ht
      obtain ⟨o', ho'⟩ := rest.reaches ht
      exact ⟨o, o', next, ho'⟩
    · rintro t u ⟨o', o'', ht, hu⟩
      exact ⟨o', o'', next.trans ht, hu⟩

end Trail

/-- The state that an outcome has reached, in success or failure. -/
def Outcome.state : Outcome → State
  | .ok t => t
  | .error failure => failure.state

/-- Where an outcome ends: with the given elements open, or, when it is a
failure, with any. -/
def Outcome.EndsAt (outcome : Outcome) (o : List Opened) (m : Moment) : Prop :=
  match outcome with
  | .ok t => m = ⟨t, o⟩
  | .error failure => m.state = failure.state

/-- A part of a template goes by edits through the given states. While something
is skipped it may be anywhere; else it is inside open elements of the given
kinds. -/
def Trails (rule : NestingRule) (outer : List Kind) (body : State → Outcome)
    (states : State → List State) : Prop :=
  ∀ (s : State) (o : List Opened), (s.suppression.isClear = true → kinds o = outer) →
    ∃ m, Trail rule ⟨s, o⟩ (states s) m ∧ (body s).EndsAt o m

variable {env : Environment} {rule : NestingRule} {o : List Opened}

/-! ## Handlers -/

theorem Leads.of_desk {s t : State} (h : t.desk = s.desk) : Leads rule ⟨s, o⟩ ⟨t, o⟩ :=
  .single (.idle h)

/-- What leads to the state of an outcome that succeeds. -/
theorem Leads.of_ok {m : Moment} {t u : State} (h : (Except.ok u : Outcome) = .ok t)
    (hu : Leads rule m ⟨u, o⟩) : Leads rule m ⟨t, o⟩ := by
  cases h
  exact hu

namespace State

theorem leads_breakLine (s : State) : Leads rule ⟨s, o⟩ ⟨s.breakLine, o⟩ := by
  unfold breakLine
  split
  · exact .single (.write s o _)
  · exact .refl

theorem leads_addMedia (placement : Placement) (xref : String) (s : State) :
    Leads rule ⟨s, o⟩ ⟨s.addMedia env placement xref, o⟩ := by
  unfold addMedia
  split
  · exact .refl
  · split
    · exact .refl
    · exact .single (.add s o rfl)

theorem leads_addImage (attrs : Attributes) (s : State) :
    Leads rule ⟨s, o⟩ ⟨s.addImage env attrs, o⟩ := by
  unfold addImage
  dsimp only
  split
  · split
    · exact leads_addMedia _ _ s
    · exact .refl
  · split
    · split
      · exact .single (.add s o rfl)
      · exact .refl
    · exact .refl

theorem leads_addHighlightedImage (attrs : Attributes) (s : State) :
    Leads rule ⟨s, o⟩ ⟨s.addHighlightedImage env attrs, o⟩ := by
  unfold addHighlightedImage
  split
  · exact .refl
  · split
    · exact .refl
    · exact leads_addMedia _ _ s

theorem leads_printName (attrs : Attributes) (s : State) :
    Leads rule ⟨s, o⟩ ⟨s.printName env attrs, o⟩ := by
  unfold printName
  dsimp only
  split
  · exact .refl
  · split <;> exact .single (.write s o _)

theorem leads_printValue (attrs : Attributes) (s : State) :
    Leads rule ⟨s, o⟩ ⟨s.printValue env attrs, o⟩ := by
  unfold printValue
  split
  · exact .refl
  · exact .single (.write s o _)
  · exact .single (.write s o _)
  · exact .single (.write s o _)

theorem leads_printVariable (attrs : Attributes) (s : State) :
    Leads rule ⟨s, o⟩ ⟨s.printVariable env attrs, o⟩ :=
  .tail (.single (.write s o _)) (.idle rfl)

theorem leads_printTotal (s : State) : Leads rule ⟨s, o⟩ ⟨s.printTotal, o⟩ := by
  unfold printTotal
  split <;> exact .single (.write s o _)

theorem desk_assign (env : Environment) (attrs : Attributes) (location : Location) (s : State) :
    (s.assign env attrs location).state.desk = s.desk := by
  unfold assign
  dsimp only
  split <;> rfl

theorem desk_endDocument (s : State) : s.endDocument.state.desk = s.desk := by
  unfold endDocument
  dsimp only
  split <;> rfl

theorem desk_skipFootnote (s : State) : s.skipFootnote.desk = s.desk :=
  rfl

theorem desk_switchTo (s : State) (text : String) : (s.switchTo text).desk = s.desk := by
  unfold switchTo
  rfl

theorem desk_beginSwitch (attrs : Attributes) (s : State) :
    (s.beginSwitch env attrs).desk = s.desk := by
  unfold beginSwitch
  dsimp only
  split
  · rfl
  · split
    · rfl
    · exact desk_switchTo s _

theorem desk_endSwitch (s : State) : s.endSwitch.desk = s.desk := by
  unfold endSwitch
  split
  · rfl
  · split <;> rfl

theorem desk_beginCondition (env : Environment) (attrs : Attributes) (location : Location)
    (s : State) :
    (s.beginCondition env attrs location).state.desk = s.desk := by
  unfold beginCondition
  dsimp only
  split
  · rfl
  · split <;> rfl

theorem desk_beginItems (s : State) (items : Items) : (s.beginItems items).desk = s.desk := by
  cases items <;> rfl

theorem suppression_beginItems (s : State) (items : Items) :
    (s.beginItems items).suppression = s.suppression := by
  cases items <;> rfl

/-- To make an item the active text touches neither the document nor the
counters. -/
theorem of_takeUp? {s t : State} {item : Item} (h : s.takeUp? env item = some t) :
    t.desk = s.desk ∧ t.suppression = s.suppression := by
  cases item with
  | part text | fact fact | relative relative =>
    cases h
    exact ⟨rfl, rfl⟩
  | record record =>
    rw [takeUp?] at h
    split at h
    · cases h
      exact ⟨rfl, rfl⟩
    · cases h

end State

/-! ## Placing elements -/

namespace State

/-- Where an element is placed. -/
theorem attach_cases {s : State} (id : ElementId)
    (h : ∀ box ∈ s.containers, s.draft.arena.isTextBox box = true) :
    (s.containers = [] ∧ s.attach id = { s with draft := s.draft.push s.place id }) ∨
      ∃ box rest, s.containers = box :: rest ∧
        s.attach id = { s with draft.arena := s.draft.arena.withChild box id } := by
  unfold attach
  cases hcontainers : s.containers with
  | nil => exact .inl ⟨rfl, rfl⟩
  | cons box rest =>
    have hbox : s.draft.arena.isTextBox box = true := h box (by simp [hcontainers])
    refine .inr ⟨box, rest, rfl, ?_⟩
    dsimp only
    rw [Arena.attach?_of_isTextBox hbox]

/-- Placing an element does not change any. -/
@[simp] theorem get?_attach (s : State) (id j : ElementId) :
    (s.attach id).draft.arena.get? j = s.draft.arena.get? j := by
  unfold attach
  split
  · rw [Draft.arena_push]
  · split
    next arena harena =>
      rw [Arena.attach?] at harena
      split at harena
      · cases harena
        exact Arena.get?_withChild ..
      · cases harena
    next => rfl

@[simp] theorem current_attach (s : State) (id : ElementId) :
    (s.attach id).current = s.current := by
  unfold attach
  split
  · rfl
  · split <;> rfl

@[simp] theorem footnotes_attach (s : State) (id : ElementId) :
    (s.attach id).footnotes = s.footnotes := by
  unfold attach
  split
  · rfl
  · split <;> rfl

/-- Placing an element has nothing to do with what is being filled. -/
theorem attach_withCurrent (s : State) (current : Option ElementId) (id : ElementId) :
    ({ s with current }).attach id = { s.attach id with current } := by
  unfold attach
  dsimp only
  split
  · rfl
  · split <;> rfl

/-- The switch for printing is no part of the document. -/
theorem desk_endPrinting (s : State) : s.endPrinting.desk = s.desk := by
  unfold endPrinting
  split <;> rfl

theorem draft_endPrinting (s : State) : s.endPrinting.draft = s.draft :=
  congrArg Desk.draft s.desk_endPrinting

theorem current_endPrinting (s : State) : s.endPrinting.current = s.current :=
  congrArg Desk.current s.desk_endPrinting

theorem containers_endPrinting (s : State) : s.endPrinting.containers = s.containers :=
  congrArg Desk.containers s.desk_endPrinting

theorem footnotes_endPrinting (s : State) : s.endPrinting.footnotes = s.footnotes :=
  congrArg Desk.footnotes s.desk_endPrinting

/-- The end of a cell or a run of text places what is being filled. -/
theorem endText_eq {s : State} {id : ElementId} (h : s.current = some id) :
    s.endText = s.endPrinting.attach id := by
  rw [endText, current_endPrinting, h]

/-- The state after a text box has been closed, before it is placed. -/
def leaveBox (s : State) (id : ElementId) (rest : List ElementId) : State :=
  { s.endPrinting with containers := rest, current := some id }

/-- A text box is closed before it is placed. -/
theorem endBox_eq {s : State} {id : ElementId} {rest : List ElementId}
    (h : s.containers = id :: rest) : s.endBox = (s.leaveBox id rest).attach id := by
  rw [endBox, containers_endPrinting, h]
  rfl

/-- What the entry of a footnote writes into its mark. -/
def numbered (entry : FootnoteEntry) : Element → Element
  | .footnote mark => .footnote { mark with num := entry.num, link := entry.link }
  | e => e

theorem keepsBoxes_numbered (entry : FootnoteEntry) : Arena.KeepsBoxes (numbered entry) := by
  intro e
  cases e <;> rfl

/-- A number does not change the text of a footnote. -/
theorem extends_numbered (entry : FootnoteEntry) (e : Element) : e.Extends (numbered entry e) := by
  cases e with
  | footnote mark => exact ⟨rfl, "", by simp [numbered, Element.text?]⟩
  | _ => exact Element.extends_refl _

/-- The style of a footnote. -/
def markStyle (s : State) (id : ElementId) : String :=
  match s.draft.arena.get? id with
  | some (.footnote mark) => mark.style
  | _ => ""

/-- The state after a footnote has been registered, before it is placed. -/
def registerFootnote (s : State) (id : ElementId) (text : String) : State :=
  { s with
    footnotes := (s.footnotes.register text (s.markStyle id)).2
    draft := s.draft.update id (numbered (s.footnotes.register text (s.markStyle id)).1) }

/-- A footnote is registered before it is placed. -/
theorem placeFootnote_eq (s : State) (id : ElementId) (text : String) :
    s.placeFootnote id text = (s.registerFootnote id text).attach id := by
  have hnumbered (entry : FootnoteEntry) : numbered entry = fun
      | .footnote mark => .footnote { mark with num := entry.num, link := entry.link }
      | e => e := by
    funext e
    cases e <;> rfl
  rw [registerFootnote, hnumbered]
  rfl

/-- The state after a footnote has been closed, before it is placed. -/
def leaveFootnote (s : State) (previous : Option ElementId) (rest : List FootnoteFrame) : State :=
  { ({ s with footnoteFrames := rest }).endPrinting with current := previous }

theorem desk_leaveFootnote (s : State) (previous : Option ElementId)
    (rest : List FootnoteFrame) :
    (s.leaveFootnote previous rest).desk =
      { s.desk with
        current := previous, openFootnotes := rest.filterMap FootnoteFrame.visible? } := by
  have hdesk := ({ s with footnoteFrames := rest } : State).desk_endPrinting
  exact congrArg (fun d : Desk => { d with current := previous }) hdesk

section

variable (s : State) (previous : Option ElementId) (rest : List FootnoteFrame)

theorem draft_leaveFootnote : (s.leaveFootnote previous rest).draft = s.draft :=
  congrArg Desk.draft (s.desk_leaveFootnote previous rest)

theorem current_leaveFootnote : (s.leaveFootnote previous rest).current = previous :=
  congrArg Desk.current (s.desk_leaveFootnote previous rest)

theorem containers_leaveFootnote : (s.leaveFootnote previous rest).containers = s.containers :=
  congrArg Desk.containers (s.desk_leaveFootnote previous rest)

theorem footnotes_leaveFootnote : (s.leaveFootnote previous rest).footnotes = s.footnotes :=
  congrArg Desk.footnotes (s.desk_leaveFootnote previous rest)

end

/-- A footnote is closed before it is placed, unless its text is too short. -/
theorem endFootnote_eq {s : State} {id : ElementId} {previous : Option ElementId}
    {rest : List FootnoteFrame} (h : s.footnoteFrames = .visible id previous :: rest) :
    s.endFootnote =
      if leastFootnoteSize ≤ (Text.trim (s.textOf id)).utf8ByteSize then
        ((s.leaveFootnote previous rest).registerFootnote id (Text.trim (s.textOf id))).attach id
      else s.leaveFootnote previous rest := by
  have htext : ({ s with footnoteFrames := rest }).endPrinting.textOf id = s.textOf id := by
    unfold endPrinting
    split <;> rfl
  unfold endFootnote
  rw [h]
  dsimp only
  rw [htext]
  split
  · rw [placeFootnote_eq, ← attach_withCurrent]
    rfl
  · rfl

end State

/-! ## Elements that open nothing -/

/-- The start of an element that is not counted and opens nothing. -/
theorem leads_startElement {head : Head} {s t : State} (hc : head.tag.isCounted = false)
    (ho : head.tag.isOpening = false) (h : startElement env head s = .ok t) :
    Leads rule ⟨s, o⟩ ⟨t, o⟩ := by
  obtain ⟨tag, name, attributes, location⟩ := head
  cases tag with
  | gedcom | ifTag | footnote | repeatTag | facts | list | relatives => cases hc
  | cell | text | textBox => cases ho
  | setVar =>
    rw [startElement] at h
    have hdesk := State.desk_assign env (attributes.resolve s.scope) location s
    dsimp only at h
    rw [h] at hdesk
    exact .of_desk hdesk
  | header | body | footer => exact .of_ok h (.single (.turn s o _))
  | now | pageNum | totalPages | generation => exact .of_ok h (.single (.write s o _))
  | line | newPage | footnoteTexts => exact .of_ok h (.single (.add s o rfl))
  | br => exact .of_ok h s.leads_breakLine
  | image => exact .of_ok h (s.leads_addImage _)
  | highlightedImage => exact .of_ok h (s.leads_addHighlightedImage _)
  | getPersonName => exact .of_ok h (s.leads_printName _)
  | gedcomValue => exact .of_ok h (s.leads_printValue _)
  | var => exact .of_ok h (s.leads_printVariable _)
  | listTotal => exact .of_ok h s.leads_printTotal
  | doc | style | title | description | other => exact .of_ok h (.of_desk rfl)

/-- A start that fails has done nothing to the document. -/
theorem desk_of_startElement_error {head : Head} {s : State} {failure : Failure}
    (h : startElement env head s = .error failure) : failure.state.desk = s.desk := by
  obtain ⟨tag, name, attributes, location⟩ := head
  cases tag with
  | setVar =>
    have hdesk := State.desk_assign env (attributes.resolve s.scope) location s
    rw [startElement] at h
    dsimp only at h
    rwa [h] at hdesk
  | ifTag =>
    have hdesk := State.desk_beginCondition env (attributes.resolve s.scope) location s
    rw [startElement] at h
    dsimp only at h
    rwa [h] at hdesk
  | list =>
    rw [startElement] at h
    dsimp only at h
    unfold State.beginList at h
    dsimp only at h
    split at h
    · split at h
      · cases h
      · cases h
        rfl
    · cases h
  | _ =>
    rw [startElement] at h
    exact absurd h Outcome.ok_ne_error

/-- The end of an element that is not counted and opens nothing. -/
theorem desk_endElement {head : Head} {body : State → Outcome} (s : State)
    (hc : head.tag.isCounted = false) (ho : head.tag.isOpening = false) :
    (endElement env head body s).state.desk = s.desk := by
  obtain ⟨tag, name, attributes, location⟩ := head
  cases tag with
  | gedcom | ifTag | footnote | repeatTag | facts | list | relatives => cases hc
  | cell | text | textBox => cases ho
  | doc => exact State.desk_endDocument s
  | _ => rfl

end Report

end Lineage
