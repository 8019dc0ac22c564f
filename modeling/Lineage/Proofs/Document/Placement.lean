import Lineage.Proofs.Document.Footnotes
import Lineage.Proofs.Document.Places

/-!
# Every element in its place

An element gets its place when it is closed. A cell that ends places whatever is
being filled by then, and does not go back to what was filled before: after a
cell or a text box inside of a cell, the end of the outer one places the inner
one once more, and never the outer one (`elements_of_cellInCell`).

Only footnotes go back. So the elements of a template are placed properly if
nothing but footnotes stands right inside of a cell or a run of text
(`onlyFootnotesInText`). `Settled` is the invariant for such templates: what has
a place has just one, and it is everything that is kept and closed.

> `elements_of_run`: when a run of such a template succeeds, the elements of its
> sections, with all elements in them, are those that were created and kept,
> each of them once.
-/

namespace Lineage

namespace Report

/-! ## What is being filled -/

/-- The rule that nothing but footnotes stands right inside of a cell or a run of
text. -/
def onlyFootnotesInText : NestingRule := fun kind around =>
  kind == .footnote || around.head? != some .text

/-- While a cell or a run of text is the innermost open element, it is what is
being filled, and so it is when the footnote on top of it is closed. -/
def FillsInnermost : Option ElementId → List Opened → Prop
  | _, [] => True
  | current, .text id :: rest => current = some id ∧ FillsInnermost none rest
  | _, .box _ :: rest => FillsInnermost none rest
  | _, .footnote _ previous :: rest => FillsInnermost previous rest

/-- With nothing to be filled no text is the innermost open element, so anything
may be filled. -/
theorem FillsInnermost.of_none {o : List Opened} (h : FillsInnermost none o)
    (current : Option ElementId) : FillsInnermost current o := by
  cases o with
  | nil => trivial
  | cons x rest =>
    cases x with
    | text id => cases h.1
    | box id => exact h
    | footnote id previous => exact h

/-- What the rule allows besides footnotes is not opened inside of text. -/
theorem FillsInnermost.none_of_rule {current : Option ElementId} {o : List Opened} {kind : Kind}
    (h : FillsInnermost current o) (hrule : onlyFootnotesInText kind (kinds o) = true)
    (hkind : kind ≠ .footnote) : FillsInnermost none o := by
  cases o with
  | nil => trivial
  | cons x rest =>
    cases x with
    | text id =>
      cases kind with
      | footnote => exact absurd rfl hkind
      | text => cases hrule
      | box => cases hrule
    | box id => exact h
    | footnote id previous => exact h

/-! ## The invariant -/

/-- What an open element is: a footnote without a number, or an element that is
kept. -/
def Opened.Fits (arena : Arena) : Opened → Prop
  | text id | box id => arena.IsKept id
  | footnote id _ => ∃ mark, arena.get? id = some (.footnote mark) ∧ mark.num = 0

theorem Opened.Fits.congr {arena later : Arena} {x : Opened} (h : x.Fits arena)
    (hsame : later.get? x.id = arena.get? x.id) : x.Fits later := by
  cases x with
  | text id | box id =>
    obtain ⟨e, he, hkept⟩ := h
    exact ⟨e, hsame.trans he, hkept⟩
  | footnote id previous =>
    obtain ⟨mark, hmark, hnum⟩ := h
    exact ⟨mark, hsame.trans hmark, hnum⟩

theorem isKept_append (text : String) (e : Element) : (e.append text).isKept = e.isKept := by
  cases e <;> rfl

/-- Text turns an open element into nothing else. -/
theorem Opened.Fits.append {arena : Arena} {x : Opened} (h : x.Fits arena) (id : ElementId)
    (text : String) : x.Fits (arena.update id (Element.append text)) := by
  cases x with
  | text j | box j => exact (Arena.isKept_update (isKept_append text)).mpr h
  | footnote j previous =>
    obtain ⟨mark, hmark, hnum⟩ := h
    by_cases hj : j = id
    · refine ⟨{ mark with text := mark.text ++ text }, ?_, hnum⟩
      rw [Arena.get?_update, if_pos hj, hmark]
      rfl
    · refine ⟨mark, ?_, hnum⟩
      rw [Arena.get?_update, if_neg hj, hmark]

/-- A moment in which all elements that have been closed are in their places. -/
structure Placing (m : Moment) : Prop where
  settled : m.state.draft.Settled (m.opened.map Opened.id)
  elements : ∀ x ∈ m.opened, x.Fits m.state.draft.arena
  fills : FillsInnermost m.state.current m.opened

namespace Placing

variable {s t : State} {o : List Opened}

theorem congr (h : Placing ⟨s, o⟩) (hdraft : t.draft = s.draft)
    (hcurrent : t.current = s.current) : Placing ⟨t, o⟩ where
  settled := hdraft ▸ h.settled
  elements x hx := hdraft ▸ h.elements x hx
  fills := hcurrent ▸ h.fills

theorem write (h : Placing ⟨s, o⟩) (text : String) : Placing ⟨s.addText text, o⟩ := by
  unfold State.addText
  split
  · exact h
  next id _ =>
    exact
      { settled := h.settled.update (.inr (isKept_append _))
        elements := fun x hx => (h.elements x hx).append id _
        fills := h.fills }

/-- A new element is opened. -/
theorem opens (h : Placing ⟨s, o⟩) (hn : Nested ⟨s, o⟩) {x : Opened} {e : Element}
    (hdraft : t.draft = (s.create e).2.draft) (hx : x.id = s.nextId)
    (hfits : x.Fits (s.draft.arena.alloc e).2) (hfills : FillsInnermost t.current (x :: o)) :
    Placing ⟨t, x :: o⟩ where
  settled := by
    show t.draft.Settled (x.id :: o.map Opened.id)
    rw [hdraft, hx]
    exact h.settled.alloc hn.draft e
  elements y hy := by
    show y.Fits t.draft.arena
    rw [hdraft]
    rcases List.mem_cons.mp hy with rfl | hy
    · exact hfits
    · refine (h.elements y hy).congr ?_
      have hold : y.id ≠ s.draft.arena.size := Nat.ne_of_lt (hn.created y hy)
      exact (Arena.get?_alloc ..).trans (if_neg hold)
  fills := hfills

/-- A closed element that is kept gets its place. -/
theorem places {id : Nat} (hn : Nested ⟨s, o⟩)
    (hsettled : s.draft.Settled (id :: o.map Opened.id)) (hkept : s.draft.arena.IsKept id)
    (hnewer : ∀ x ∈ o, x.id < id) (helements : ∀ x ∈ o, x.Fits s.draft.arena)
    (hfills : FillsInnermost s.current o) : Placing ⟨s.attach id, o⟩ := by
  -- it is newer than what is still open, so it is none of that
  have hwaiting : id ∉ o.map Opened.id := by
    intro hmem
    obtain ⟨x, hx, hid⟩ := List.mem_map.mp hmem
    exact Nat.ne_of_lt (hnewer x hx) hid
  have hplaced : (s.attach id).draft.placed.Perm (id :: s.draft.placed) := by
    rcases State.attach_cases id fun box hbox => hn.isTextBox_of_mem hbox with
      ⟨_, ha⟩ | ⟨box, rest, hcontainers, ha⟩
    · rw [ha]
      exact Draft.placed_push _ _ id
    · have hbox : s.draft.arena.isTextBox box = true := hn.isTextBox_of_mem (by simp [hcontainers])
      rw [ha]
      exact Draft.placed_withChild (Arena.lt_size_of_isTextBox hbox) id
  exact
    { settled := hsettled.place hkept hwaiting hplaced (s.get?_attach id)
      elements := fun x hx => (helements x hx).congr (s.get?_attach id x.id)
      fills := by
        show FillsInnermost (s.attach id).current o
        rw [State.current_attach]
        exact hfills }

/-! ### Edits -/

theorem endPrinting (h : Placing ⟨s, o⟩) : Placing ⟨s.endPrinting, o⟩ :=
  h.congr s.draft_endPrinting s.current_endPrinting

theorem addElement (h : Placing ⟨s, o⟩) (hn : Nested ⟨s, o⟩) {e : Element}
    (he : e.isPlain = true) : Placing ⟨s.addElement e, o⟩ := by
  refine places (hn.create e) (h.settled.alloc hn.draft e) ?_ (fun x hx => hn.created x hx) ?_
    h.fills
  · refine ⟨e, (Arena.get?_alloc ..).trans (if_pos rfl), ?_⟩
    cases e <;> first | rfl | cases he
  · intro x hx
    refine (h.elements x hx).congr ?_
    have hold : x.id ≠ s.draft.arena.size := Nat.ne_of_lt (hn.created x hx)
    exact (Arena.get?_alloc ..).trans (if_neg hold)

theorem openText (h : Placing ⟨s, o⟩) (hn : Nested ⟨s, o⟩) {e : Element} (he : e.isText = true)
    (hrule : onlyFootnotesInText .text (kinds o) = true) :
    Placing ⟨s.beginText e, .text s.nextId :: o⟩ := by
  have hfills : FillsInnermost none o := h.fills.none_of_rule hrule (by decide)
  refine h.opens hn (e := e) rfl rfl ⟨e, ?_, ?_⟩ ⟨rfl, hfills⟩
  · exact (Arena.get?_alloc ..).trans (if_pos rfl)
  · cases e <;> first | rfl | cases he

theorem openBox (h : Placing ⟨s, o⟩) (hn : Nested ⟨s, o⟩) (attrs : Attributes)
    (hrule : onlyFootnotesInText .box (kinds o) = true) :
    Placing ⟨s.beginBox attrs, .box s.nextId :: o⟩ := by
  have hfills : FillsInnermost none o := h.fills.none_of_rule hrule (by decide)
  exact h.opens hn (e := .textBox (textBoxOf attrs)) rfl rfl
    ⟨_, (Arena.get?_alloc ..).trans (if_pos rfl), rfl⟩ hfills

theorem openFootnote (h : Placing ⟨s, o⟩) (hn : Nested ⟨s, o⟩) (style : String) :
    Placing ⟨s.openFootnote style, .footnote s.nextId s.current :: o⟩ :=
  h.opens hn (e := .footnote (.ofStyle style)) rfl rfl
    ⟨.ofStyle style, (Arena.get?_alloc ..).trans (if_pos rfl), rfl⟩ h.fills

/-- The end of a cell or a run of text, which is what is being filled. -/
theorem closeText {id : Nat} (h : Placing ⟨s, .text id :: o⟩) (hn : Nested ⟨s, .text id :: o⟩) :
    Placing ⟨s.endText, o⟩ := by
  obtain ⟨hcurrent, hfills⟩ := h.fills
  have hended : Placing ⟨s.endPrinting, .text id :: o⟩ := h.endPrinting
  rw [State.endText_eq hcurrent]
  exact places hn.leaveText hended.settled (hended.elements _ (List.mem_cons_self ..))
    (fun x hx => hn.around_lt hx) (fun x hx => hended.elements x (List.mem_cons_of_mem _ hx))
    (hfills.of_none _)

theorem closeBox {id : Nat} {rest : List ElementId} (h : Placing ⟨s, .box id :: o⟩)
    (hn : Nested ⟨s, .box id :: o⟩) (hcontainers : s.containers = id :: rest) :
    Placing ⟨s.endBox, o⟩ := by
  have hfills : FillsInnermost none o := h.fills
  have hended : Placing ⟨s.endPrinting, .box id :: o⟩ := h.endPrinting
  rw [State.endBox_eq hcontainers]
  exact places (hn.leaveBox hcontainers) hended.settled
    (hended.elements _ (List.mem_cons_self ..)) (fun x hx => hn.around_lt hx)
    (fun x hx => hended.elements x (List.mem_cons_of_mem _ hx)) (hfills.of_none _)

/-- A footnote that has been registered is kept, since entries are numbered
from 1. -/
theorem isKept_registerFootnote (h : s.footnotes.Sound) {id : Nat} {mark : FootnoteMark}
    (hmark : s.draft.arena.get? id = some (.footnote mark)) (text : String) :
    (s.registerFootnote id text).draft.arena.IsKept id := by
  obtain ⟨i, -, hnum, -⟩ := h.getElem?_register text (s.markStyle id)
  refine ⟨State.numbered (s.footnotes.register text (s.markStyle id)).1 (.footnote mark), ?_, ?_⟩
  · rw [State.registerFootnote, Draft.update, Arena.get?_update, if_pos rfl, hmark]
    rfl
  · simp [State.numbered, Element.isKept, hnum]

section

variable {id : Nat} {previous : Option ElementId} {rest : List FootnoteFrame}

/-- A footnote that is kept gets its number, which leaves the other open elements
as they are, and then a place. -/
theorem keepFootnote (h : Placing ⟨s, .footnote id previous :: o⟩)
    (hn : Nested ⟨s, .footnote id previous :: o⟩) (hc : Cited ⟨s, .footnote id previous :: o⟩)
    (hframes : s.footnoteFrames = .visible id previous :: rest) (text : String) :
    Placing ⟨((s.leaveFootnote previous rest).registerFootnote id text).attach id, o⟩ := by
  have hdraft := s.draft_leaveFootnote previous rest
  obtain ⟨mark, hmark, -⟩ := h.elements _ (List.mem_cons_self ..)
  have hsettled : s.draft.Settled (id :: o.map Opened.id) := h.settled
  have hregistered : (s.leaveFootnote previous rest).footnotes.Sound :=
    s.footnotes_leaveFootnote previous rest ▸ hc.table
  refine places ((hn.leaveFootnote hframes).registerFootnote id text) ?_
    (isKept_registerFootnote hregistered (hdraft ▸ hmark) text) (fun x hx => hn.around_lt hx) ?_ ?_
  · rw [State.registerFootnote, hdraft]
    exact hsettled.update (.inl (List.mem_cons_self ..))
  · intro x hx
    refine (h.elements x (List.mem_cons_of_mem _ hx)).congr ?_
    have hne : x.id ≠ id := Nat.ne_of_lt (hn.around_lt hx)
    rw [State.registerFootnote, hdraft, Draft.update, Arena.get?_update, if_neg hne]
  · rw [State.registerFootnote, State.current_leaveFootnote]
    exact h.fills

/-- A footnote that is dropped has no number, and so it needs no place. -/
theorem dropFootnote (h : Placing ⟨s, .footnote id previous :: o⟩) :
    Placing ⟨s.leaveFootnote previous rest, o⟩ := by
  obtain ⟨mark, hmark, hnum⟩ := h.elements _ (List.mem_cons_self ..)
  have hmark' : s.draft.arena.get? id = some (.footnote mark) := hmark
  have hsettled : s.draft.Settled (id :: o.map Opened.id) := h.settled
  have hunkept : ¬ s.draft.arena.IsKept id := by
    rintro ⟨e, he, hkept⟩
    rw [hmark'] at he
    cases he
    simp [Element.isKept, hnum] at hkept
  have hdropped : Placing ⟨{ s with current := previous }, o⟩ :=
    ⟨hsettled.drop hunkept, fun x hx => h.elements x (List.mem_cons_of_mem _ hx), h.fills⟩
  exact hdropped.congr (s.draft_leaveFootnote previous rest)
    (s.current_leaveFootnote previous rest)

/-- The end of a footnote, which is kept if and only if it is placed. -/
theorem closeFootnote (h : Placing ⟨s, .footnote id previous :: o⟩)
    (hn : Nested ⟨s, .footnote id previous :: o⟩) (hc : Cited ⟨s, .footnote id previous :: o⟩)
    (hframes : s.footnoteFrames = .visible id previous :: rest) : Placing ⟨s.endFootnote, o⟩ := by
  rw [State.endFootnote_eq hframes]
  split
  · exact h.keepFootnote hn hc hframes _
  · exact h.dropFootnote

end

end Placing

/-- No edit takes anything away, neither elements nor text. -/
theorem extends_step {rule : NestingRule} {m n : Moment} (hedit : Edit rule m n) :
    m.state.draft.arena.Extends n.state.draft.arena := by
  have hsame {s t : State} (h : t.draft = s.draft) : s.draft.arena.Extends t.draft.arena :=
    h ▸ .refl _
  have hattach (s : State) (id : ElementId) : s.draft.arena.Extends (s.attach id).draft.arena :=
    .of_get?_eq (s.get?_attach id)
  have hended (s : State) : s.draft.arena.Extends s.endPrinting.draft.arena :=
    hsame s.draft_endPrinting
  cases hedit with
  | idle desk => exact hsame (congrArg Desk.draft desk)
  | write s o text =>
    unfold State.addText
    dsimp only
    split
    · exact .refl _
    · exact .update (fun e => e.extends_append _) _ _
  | turn s o place => exact hsame rfl
  | @add s o e plain => exact (Arena.Extends.alloc s.draft.arena e).trans (hattach (s.create e).2 _)
  | @openText s o e text allowed => exact Arena.Extends.alloc s.draft.arena e
  | openBox s attrs allowed => exact Arena.Extends.alloc s.draft.arena _
  | openFootnote s style allowed => exact Arena.Extends.alloc s.draft.arena _
  | closeText s o id =>
    unfold State.endText
    dsimp only
    split
    · exact (hended s).trans (hattach _ _)
    · exact hended s
  | @closeBox s id rest o containers =>
    rw [State.endBox_eq containers]
    exact (hended s).trans (hattach (s.leaveBox id rest) id)
  | @closeFootnote s id previous rest o frames =>
    have hleft : s.draft.arena.Extends (s.leaveFootnote previous rest).draft.arena :=
      hsame (s.draft_leaveFootnote previous rest)
    rw [State.endFootnote_eq frames]
    dsimp only
    split
    · refine hleft.trans (Arena.Extends.trans ?_ (hattach _ _))
      exact .update (State.extends_numbered _) _ _
    · exact hleft

theorem extends_of_leads {rule : NestingRule} {m n : Moment} (h : Leads rule m n) :
    m.state.draft.arena.Extends n.state.draft.arena := by
  induction h with
  | refl => exact .refl _
  | tail _ hedit ih => exact ih.trans (extends_step hedit)

/-- **Nothing that has been created or written gets lost** in a run, whatever
the template is. -/
theorem extends_history (env : Environment) (template : List Template.Node) (scope : Scope)
    (output : Output) :
    (history env template (.start scope output)).Pairwise fun s t =>
      s.draft.arena.Extends t.draft.arena := by
  refine (pairwise_history env template scope output).imp ?_
  rintro s t ⟨_, _, -, hleads⟩
  exact extends_of_leads hleads

end Report

end Lineage
