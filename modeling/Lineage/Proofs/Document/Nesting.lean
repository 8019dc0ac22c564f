import Lineage.Proofs.Walk.Trail

/-!
# How elements are nested

An element is put into the innermost open text box, and a cell or a run of text
is put there at its end, as whatever element is being filled by then. Nothing
checks that this is possible: the open text box might be gone, or it might be
put into itself.

It never is, because numbers grow. `Nested` is the invariant. What is opened
later has the larger number, and while text is open the element that is being
filled is at least as new (`Filled`), so that whatever is closed is newer than
the text box around it. `nested_step` has one case for each kind of edit, and
`nested_of_leads` carries the invariant through a run.

> `orderly_of_mem_history`: at any time of a run all numbers in use are those of
> elements, and only text boxes contain anything, elements newer than
> themselves. So elements can always be placed, and building a section leaves
> none of them out.
-/

namespace Lineage

namespace Report

/-! ## What is being filled -/

namespace Opened

/-- The number of an open text box. -/
def box? : Opened → Option ElementId
  | box id => some id
  | _ => none

/-- An open footnote with the element that was filled before it. -/
def footnote? : Opened → Option (ElementId × Option ElementId)
  | footnote id previous => some (id, previous)
  | _ => none

end Opened

/-- What the innermost open element adds to a stack. -/
theorem filterMap_opened {α : Type} (f : Opened → Option α) (x : Opened) (o : List Opened) :
    (x :: o).filterMap f = (f x).toList ++ o.filterMap f := by
  rw [List.filterMap_cons]
  cases f x <;> rfl

/-- While text is open, the element that is being filled is the open one or one
that is newer. The end of a footnote goes back to what was filled before it. -/
def Filled : Option ElementId → List Opened → Prop
  | _, [] => True
  | current, .text id :: rest => (∃ c : Nat, current = some c ∧ id ≤ c) ∧ Filled current rest
  | current, .box _ :: rest => Filled current rest
  | _, .footnote _ previous :: rest => Filled previous rest

/-- An element that is newer than all open ones may be filled instead. -/
theorem Filled.of_newer {current : Option ElementId} {o : List Opened} {c : Nat}
    (h : Filled current o) (hc : ∀ x ∈ o, x.id ≤ c) : Filled (some c) o := by
  induction o with
  | nil => trivial
  | cons x rest ih =>
    have hrest : ∀ y ∈ rest, y.id ≤ c := fun y hy => hc y (List.mem_cons_of_mem _ hy)
    cases x with
    | text id => exact ⟨⟨c, rfl, hc _ (List.mem_cons_self ..)⟩, ih h.2 hrest⟩
    | box id => exact ih h hrest
    | footnote id previous => exact h

/-! ## The invariant -/

/-- A moment in order. The stacks of the state are those of the open elements,
which have been created one after the other. -/
structure Nested (m : Moment) : Prop where
  draft : m.state.draft.Orderly
  current : ∀ id : Nat, m.state.current = some id → id < m.state.nextId
  containers : m.state.containers = m.opened.filterMap Opened.box?
  footnotes : m.state.desk.openFootnotes = m.opened.filterMap Opened.footnote?
  boxes : ∀ id : Nat, .box id ∈ m.opened → m.state.draft.arena.isTextBox id = true
  previous : ∀ (id previous : Nat), .footnote id (some previous) ∈ m.opened →
    previous < m.state.nextId
  created : ∀ x ∈ m.opened, x.id < m.state.nextId
  descending : m.opened.Pairwise fun inner around => around.id < inner.id
  filled : Filled m.state.current m.opened

namespace Nested

variable {s t : State} {o : List Opened}

/-- The invariant looks at nothing but the document and the stacks. -/
theorem congr (h : Nested ⟨s, o⟩) (hdraft : t.draft = s.draft)
    (hcurrent : t.current = s.current) (hcontainers : t.containers = s.containers)
    (hfootnotes : t.desk.openFootnotes = s.desk.openFootnotes) : Nested ⟨t, o⟩ := by
  have hsize : t.nextId = s.nextId := by rw [State.nextId, hdraft, State.nextId]
  exact
    { draft := hdraft ▸ h.draft
      current := fun id hid => hsize ▸ h.current id (hcurrent ▸ hid)
      containers := hcontainers.trans h.containers
      footnotes := hfootnotes.trans h.footnotes
      boxes := fun id hid => hdraft ▸ h.boxes id hid
      previous := fun id previous hid => hsize ▸ h.previous id previous hid
      created := fun x hx => hsize ▸ h.created x hx
      descending := h.descending
      filled := hcurrent ▸ h.filled }

theorem idle (h : Nested ⟨s, o⟩) (hdesk : t.desk = s.desk) : Nested ⟨t, o⟩ :=
  h.congr (congrArg Desk.draft hdesk) (congrArg Desk.current hdesk)
    (congrArg Desk.containers hdesk) (congrArg Desk.openFootnotes hdesk)

/-- The document may grow. -/
theorem withDraft (h : Nested ⟨s, o⟩) {draft : Draft} (hdraft : draft.Orderly)
    (hsize : s.nextId ≤ draft.arena.size)
    (hbox : ∀ id : Nat, s.draft.arena.isTextBox id = true → draft.arena.isTextBox id = true) :
    Nested ⟨{ s with draft }, o⟩ where
  draft := hdraft
  current id hid := Nat.lt_of_lt_of_le (h.current id hid) hsize
  containers := h.containers
  footnotes := h.footnotes
  boxes id hid := hbox id (h.boxes id hid)
  previous id previous hid := Nat.lt_of_lt_of_le (h.previous id previous hid) hsize
  created x hx := Nat.lt_of_lt_of_le (h.created x hx) hsize
  descending := h.descending
  filled := h.filled

/-- The open text boxes are those that elements are placed in. -/
theorem mem_containers (h : Nested ⟨s, o⟩) {box : Nat} : box ∈ s.containers ↔ .box box ∈ o := by
  have hcontainers : s.containers = o.filterMap Opened.box? := h.containers
  rw [hcontainers, List.mem_filterMap]
  constructor
  · rintro ⟨x, hx, hbox⟩
    cases x with
    | box id =>
      cases hbox
      exact hx
    | text id => cases hbox
    | footnote id previous => cases hbox
  · intro hbox
    exact ⟨.box box, hbox, rfl⟩

theorem isTextBox_of_mem (h : Nested ⟨s, o⟩) {box : Nat} (hbox : box ∈ s.containers) :
    s.draft.arena.isTextBox box = true :=
  h.boxes box (h.mem_containers.mp hbox)

/-- The open footnotes are those that are being filled. -/
theorem mem_footnotes (h : Nested ⟨s, o⟩) {id : Nat} {previous : Option ElementId} :
    .visible id previous ∈ s.footnoteFrames ↔ .footnote id previous ∈ o := by
  have hframes : s.footnoteFrames.filterMap FootnoteFrame.visible? =
      o.filterMap Opened.footnote? := h.footnotes
  have hvisible : .visible id previous ∈ s.footnoteFrames ↔
      (id, previous) ∈ s.footnoteFrames.filterMap FootnoteFrame.visible? := by
    rw [List.mem_filterMap]
    constructor
    · intro hmem
      exact ⟨_, hmem, rfl⟩
    · rintro ⟨frame, hframe, hfootnote⟩
      cases frame with
      | visible footnote before =>
        cases hfootnote
        exact hframe
      | hidden => cases hfootnote
  rw [hvisible, hframes, List.mem_filterMap]
  constructor
  · rintro ⟨x, hx, hfootnote⟩
    cases x with
    | footnote footnote before =>
      cases hfootnote
      exact hx
    | text footnote => cases hfootnote
    | box footnote => cases hfootnote
  · intro hmem
    exact ⟨_, hmem, rfl⟩

/-- A new element. -/
theorem create (h : Nested ⟨s, o⟩) (e : Element) : Nested ⟨(s.create e).2, o⟩ := by
  have hsize : s.nextId ≤ (s.draft.arena.alloc e).2.size := by
    rw [Arena.size_alloc]
    exact Nat.le_succ _
  exact h.withDraft (h.draft.alloc e) hsize fun id hid => Arena.isTextBox_alloc e hid

/-- A change to an element. -/
theorem update (h : Nested ⟨s, o⟩) {f : Element → Element} (hf : Arena.KeepsBoxes f)
    (id : ElementId) : Nested ⟨{ s with draft := s.draft.update id f }, o⟩ := by
  refine h.withDraft (h.draft.update hf id) ?_ ?_
  · rw [Draft.update, Arena.size_update]
    exact Nat.le_refl _
  · intro j hj
    rwa [Draft.update, Arena.isTextBox_update hf]

/-- A place for an element that is newer than the open text boxes. -/
theorem attach (h : Nested ⟨s, o⟩) {id : Nat} (hid : id < s.nextId)
    (hnewer : ∀ box : Nat, .box box ∈ o → box < id) : Nested ⟨s.attach id, o⟩ := by
  obtain ⟨-, hattach⟩ | ⟨box, rest, hcontainers, hattach⟩ :=
    State.attach_cases id fun box hbox => h.isTextBox_of_mem hbox
  · rw [hattach]
    refine h.withDraft (h.draft.push s.place hid) ?_ ?_
    · rw [Draft.arena_push]
      exact Nat.le_refl _
    · intro j hj
      rwa [Draft.arena_push]
  · have hopen : .box box ∈ o := h.mem_containers.mp (by simp [hcontainers])
    rw [hattach]
    refine h.withDraft (h.draft.withChild (h.boxes box hopen) (hnewer box hopen) hid) ?_ ?_
    · rw [Arena.size_withChild]
      exact Nat.le_refl _
    · intro j hj
      rwa [Arena.isTextBox_withChild]

/-- A new element that is placed right away. -/
theorem addElement (h : Nested ⟨s, o⟩) (e : Element) : Nested ⟨s.addElement e, o⟩ := by
  have hnewest : s.nextId < (s.create e).2.nextId := by
    show s.nextId < (s.draft.arena.alloc e).2.size
    rw [Arena.size_alloc]
    exact Nat.lt_succ_self _
  exact (h.create e).attach hnewest fun box hbox => h.created _ hbox

theorem endPrinting (h : Nested ⟨s, o⟩) : Nested ⟨s.endPrinting, o⟩ :=
  h.idle s.desk_endPrinting

end Nested

/-! ## Edits -/

namespace Nested

variable {s : State} {o : List Opened}

theorem write (h : Nested ⟨s, o⟩) (text : String) : Nested ⟨s.addText text, o⟩ := by
  unfold State.addText
  split
  · exact h
  · refine h.update ?_ _
    intro e
    cases e <;> rfl

/-- A new element is opened. -/
theorem opens (h : Nested ⟨s, o⟩) {t : State} {x : Opened} {e : Element}
    (hdraft : t.draft = (s.create e).2.draft) (hx : x.id = s.nextId)
    (hcurrent : t.current = s.current ∨ t.current = some s.nextId)
    (hcontainers : t.containers = x.box?.toList ++ s.containers)
    (hfootnotes : t.desk.openFootnotes = x.footnote?.toList ++ s.desk.openFootnotes)
    (hbox : ∀ id, x = .box id → e.isTextBox = true)
    (hprevious : ∀ id previous, x = .footnote id previous → previous = s.current)
    (hfilled : Filled t.current (x :: o)) : Nested ⟨t, x :: o⟩ := by
  have hcreated : Nested ⟨(s.create e).2, o⟩ := h.create e
  have hsize : t.nextId = s.nextId + 1 := by
    rw [State.nextId, hdraft]
    exact Arena.size_alloc ..
  have hlookup : ∀ id, t.draft.arena.get? id = if id = s.nextId then some e
      else s.draft.arena.get? id := by
    intro id
    rw [hdraft]
    exact Arena.get?_alloc ..
  refine
    { draft := hdraft ▸ hcreated.draft, current := ?current, containers := ?containers
      footnotes := ?footnotes, boxes := ?boxes, previous := ?previous, created := ?created
      descending := ?descending, filled := hfilled }
  case current =>
    intro id hid
    rw [hsize]
    rcases hcurrent with hsame | hnew
    · have := h.current id (hsame ▸ hid)
      dsimp only at this
      omega
    · have hnewest : s.nextId = id := Option.some.inj (hnew.symm.trans hid)
      omega
  case containers =>
    have hboxes : s.containers = o.filterMap Opened.box? := h.containers
    rw [hcontainers, hboxes, filterMap_opened]
  case footnotes =>
    have hframes : s.desk.openFootnotes = o.filterMap Opened.footnote? := h.footnotes
    rw [hfootnotes, hframes, filterMap_opened]
  case boxes =>
    intro id hid
    rcases List.mem_cons.mp hid with rfl | hid
    · have hnewest : id = s.nextId := hx
      rw [Arena.isTextBox, hlookup, if_pos hnewest]
      exact hbox id rfl
    · have hold : s.draft.arena.isTextBox id = true := h.boxes id hid
      show t.draft.arena.isTextBox id = true
      rw [hdraft]
      exact Arena.isTextBox_alloc e hold
  case previous =>
    intro id previous hid
    rw [hsize]
    rcases List.mem_cons.mp hid with rfl | hid
    -- a footnote goes back to what was being filled when it was opened
    · have := h.current previous (hprevious id (some previous) rfl).symm
      dsimp only at this
      omega
    · have := h.previous id previous hid
      dsimp only at this
      omega
  case created =>
    intro y hy
    rw [hsize]
    rcases List.mem_cons.mp hy with rfl | hy
    · omega
    · have := h.created y hy
      dsimp only at this
      omega
  case descending =>
    refine h.descending.cons fun y hy => ?_
    rw [hx]
    exact h.created y hy

/-- The innermost open element is closed. -/
theorem closes {x : Opened} (h : Nested ⟨s, x :: o⟩) {t : State} (hdraft : t.draft = s.draft)
    (hcurrent : ∀ id : Nat, t.current = some id → id < s.nextId)
    (hcontainers : s.containers = x.box?.toList ++ t.containers)
    (hfootnotes : s.desk.openFootnotes = x.footnote?.toList ++ t.desk.openFootnotes)
    (hfilled : Filled t.current o) : Nested ⟨t, o⟩ := by
  have hsize : t.nextId = s.nextId := by rw [State.nextId, hdraft, State.nextId]
  refine
    { draft := hdraft ▸ h.draft, current := ?current, containers := ?containers
      footnotes := ?footnotes, boxes := ?boxes, previous := ?previous, created := ?created
      descending := h.descending.of_cons, filled := hfilled }
  case current =>
    intro id hid
    rw [hsize]
    exact hcurrent id hid
  case containers =>
    have hboxes : s.containers = (x :: o).filterMap Opened.box? := h.containers
    rw [hcontainers, filterMap_opened] at hboxes
    exact List.append_cancel_left hboxes
  case footnotes =>
    have hframes : s.desk.openFootnotes = (x :: o).filterMap Opened.footnote? := h.footnotes
    rw [hfootnotes, filterMap_opened] at hframes
    exact List.append_cancel_left hframes
  case boxes =>
    intro id hid
    show t.draft.arena.isTextBox id = true
    rw [hdraft]
    exact h.boxes id (List.mem_cons_of_mem _ hid)
  case previous =>
    intro id previous hid
    rw [hsize]
    exact h.previous id previous (List.mem_cons_of_mem _ hid)
  case created =>
    intro y hy
    rw [hsize]
    exact h.created y (List.mem_cons_of_mem _ hy)

/-- What is open around an element is older. -/
theorem around_lt {x : Opened} (h : Nested ⟨s, x :: o⟩) {y : Opened} (hy : y ∈ o) :
    y.id < x.id :=
  List.rel_of_pairwise_cons h.descending hy

theorem openText (h : Nested ⟨s, o⟩) (e : Element) :
    Nested ⟨s.beginText e, .text s.nextId :: o⟩ := by
  have hfilled : Filled (some s.nextId) o :=
    h.filled.of_newer fun x hx => Nat.le_of_lt (h.created x hx)
  exact h.opens (e := e) rfl rfl (.inr rfl) rfl rfl (by simp) (by simp)
    ⟨⟨s.nextId, rfl, Nat.le_refl _⟩, hfilled⟩

theorem openBox (h : Nested ⟨s, o⟩) (attrs : Attributes) :
    Nested ⟨s.beginBox attrs, .box s.nextId :: o⟩ :=
  h.opens (e := .textBox (textBoxOf attrs)) rfl rfl (.inl rfl) rfl rfl (fun _ _ => rfl) (by simp)
    h.filled

theorem openFootnote (h : Nested ⟨s, o⟩) (style : String) :
    Nested ⟨s.openFootnote style, .footnote s.nextId s.current :: o⟩ :=
  h.opens (e := .footnote (.ofStyle style)) rfl rfl (.inr rfl) rfl rfl (by simp)
    (by simp [eq_comm]) h.filled

/-- While text is open, the element that is being filled is newer than what is
open around the text. -/
theorem exists_filled {id : Nat} (h : Nested ⟨s, .text id :: o⟩) :
    ∃ c : Nat, s.current = some c ∧ Filled s.current o ∧ ∀ x ∈ o, x.id < c := by
  obtain ⟨⟨c, hc, hle⟩, hfilled⟩ := h.filled
  refine ⟨c, hc, hfilled, ?_⟩
  intro x hx
  have hlt : x.id < id := h.around_lt hx
  omega

/-- The end of a cell or a run of text, without a place for it. -/
theorem leaveText {id : Nat} (h : Nested ⟨s, .text id :: o⟩) : Nested ⟨s.endPrinting, o⟩ := by
  obtain ⟨_, _, hfilled, _⟩ := h.exists_filled
  refine h.endPrinting.closes rfl h.endPrinting.current rfl rfl ?_
  rwa [State.current_endPrinting]

/-- The end of a cell or a run of text. What gets its place is the element that
is being filled, which is at least as new. -/
theorem closeText {id : Nat} (h : Nested ⟨s, .text id :: o⟩) : Nested ⟨s.endText, o⟩ := by
  obtain ⟨c, hc, _, hnewer⟩ := h.exists_filled
  have hcreated : c < s.endPrinting.nextId :=
    h.leaveText.current c (s.current_endPrinting.trans hc)
  rw [State.endText_eq hc]
  exact h.leaveText.attach hcreated fun box hbox => hnewer _ hbox

/-- The end of a text box, without a place for it. Everything around the text
box is older, so it may be filled now. -/
theorem leaveBox {id : Nat} {rest : List ElementId} (h : Nested ⟨s, .box id :: o⟩)
    (hcontainers : s.containers = id :: rest) : Nested ⟨s.leaveBox id rest, o⟩ := by
  have hbefore : Filled s.current o := h.filled
  have hopen : s.endPrinting.containers = id :: rest :=
    s.containers_endPrinting.trans hcontainers
  refine h.endPrinting.closes rfl ?_ hopen rfl
    (hbefore.of_newer fun x hx => Nat.le_of_lt (h.around_lt hx))
  intro c hc
  cases hc
  exact h.endPrinting.created (.box id) (List.mem_cons_self ..)

/-- The end of a text box, which is placed in what is around it. -/
theorem closeBox {id : Nat} {rest : List ElementId} (h : Nested ⟨s, .box id :: o⟩)
    (hcontainers : s.containers = id :: rest) : Nested ⟨s.endBox, o⟩ := by
  rw [State.endBox_eq hcontainers]
  exact (h.leaveBox hcontainers).attach (h.endPrinting.created (.box id) (List.mem_cons_self ..))
    fun box hbox => h.around_lt hbox

/-- The end of a footnote, without a place for it. -/
theorem leaveFootnote {id : Nat} {previous : Option ElementId} {rest : List FootnoteFrame}
    (h : Nested ⟨s, .footnote id previous :: o⟩)
    (hframes : s.footnoteFrames = .visible id previous :: rest) :
    Nested ⟨s.leaveFootnote previous rest, o⟩ := by
  have hcurrent := s.current_leaveFootnote previous rest
  refine h.closes (s.draft_leaveFootnote previous rest) ?_
    (s.containers_leaveFootnote previous rest).symm ?_ ?_
  · intro c hc
    have hprevious : previous = some c := hcurrent.symm.trans hc
    subst hprevious
    exact h.previous id c (List.mem_cons_self ..)
  · rw [congrArg Desk.openFootnotes (s.desk_leaveFootnote previous rest)]
    show s.footnoteFrames.filterMap FootnoteFrame.visible? = _
    rw [hframes]
    rfl
  · rw [hcurrent]
    exact h.filled

/-- A footnote that has been registered. -/
theorem registerFootnote (h : Nested ⟨s, o⟩) (id : ElementId) (text : String) :
    Nested ⟨s.registerFootnote id text, o⟩ :=
  (h.update (State.keepsBoxes_numbered _) id).congr rfl rfl rfl rfl

/-- The end of a footnote, which is placed unless its text is too short. -/
theorem closeFootnote {id : Nat} {previous : Option ElementId} {rest : List FootnoteFrame}
    (h : Nested ⟨s, .footnote id previous :: o⟩)
    (hframes : s.footnoteFrames = .visible id previous :: rest) :
    Nested ⟨s.endFootnote, o⟩ := by
  have hleft := h.leaveFootnote hframes
  have hcreated : id < s.draft.arena.size :=
    h.created (.footnote id previous) (List.mem_cons_self ..)
  rw [State.endFootnote_eq hframes]
  split
  · refine (hleft.registerFootnote id _).attach ?_ fun box hbox => h.around_lt hbox
    show id < ((s.leaveFootnote previous rest).draft.arena.update id _).size
    rwa [Arena.size_update, State.draft_leaveFootnote]
  · exact hleft

end Nested

variable {rule : NestingRule}

/-- Every edit leaves a moment in order. -/
theorem nested_step {m n : Moment} (h : Nested m) (hedit : Edit rule m n) : Nested n := by
  cases hedit with
  | idle desk => exact h.idle desk
  | write s o text => exact h.write text
  | turn s o place => exact h.congr rfl rfl rfl rfl
  | add s o plain => exact h.addElement _
  | openText s text allowed => exact h.openText _
  | closeText s o id => exact h.closeText
  | openBox s attrs allowed => exact h.openBox attrs
  | closeBox o containers => exact h.closeBox containers
  | openFootnote s style allowed => exact h.openFootnote style
  | closeFootnote o frames => exact h.closeFootnote frames

/-- A run starts in order. -/
theorem nested_start (scope : Scope) (output : Output) : Nested (.start scope output) where
  draft := by
    constructor
    · intro place id hid
      cases place <;> cases hid
    · intro parent child hchild
      cases hchild
  current := by simp [Moment.start, State.start]
  containers := rfl
  footnotes := rfl
  boxes := by simp [Moment.start]
  previous := by simp [Moment.start]
  created := by simp [Moment.start]
  descending := .nil
  filled := trivial

/-- **Every moment of a run is in order.** -/
theorem nested_of_leads {m n : Moment} (hm : Nested m) (h : Leads rule m n) : Nested n := by
  induction h with
  | refl => exact hm
  | tail _ hedit ih => exact nested_step ih hedit

/-! ## Runs -/

/-- A state in order: every number that it holds is that of an element, and
only text boxes are open as such or contain anything, elements newer than
themselves. -/
structure State.Orderly (s : State) : Prop where
  sections : ∀ (place : Section) (id : Nat), id ∈ s.draft.ids place → id < s.nextId
  containers : ∀ id : Nat, id ∈ s.containers →
    id < s.nextId ∧ s.draft.arena.isTextBox id = true
  current : ∀ id : Nat, s.current = some id → id < s.nextId
  footnotes : ∀ (id : Nat) (previous : Option ElementId),
    .visible id previous ∈ s.footnoteFrames →
      id < s.nextId ∧ ∀ before : Nat, previous = some before → before < s.nextId
  children : ∀ parent child : Nat, child ∈ s.draft.arena.children parent →
    s.draft.arena.isTextBox parent = true ∧ parent < child ∧ child < s.nextId

/-- A moment in order has a state in order. -/
theorem Nested.orderly {s : State} {o : List Opened} (h : Nested ⟨s, o⟩) : s.Orderly where
  sections := h.draft.sections
  containers id hid := by
    have hbox : s.draft.arena.isTextBox id = true := h.isTextBox_of_mem hid
    exact ⟨Arena.lt_size_of_isTextBox hbox, hbox⟩
  current := h.current
  footnotes id previous hid := by
    have hopen : .footnote id previous ∈ o := h.mem_footnotes.mp hid
    refine ⟨h.created _ hopen, ?_⟩
    intro before hbefore
    subst hbefore
    exact h.previous id before hopen
  children := h.draft.children

/-- **The document of a run is free of cycles and of dangling numbers.** At any
time every number in use is that of an element, and only text boxes contain
elements or are open for them, elements newer than themselves. So an element
can always be placed in an open text box, every element can be built with all
elements in it, and no element of a section is left out when it is built. -/
theorem orderly_of_mem_history (env : Environment) (template : List Template.Node) (scope : Scope)
    (output : Output) :
    ∀ t ∈ history env template (.start scope output),
      t.Orderly ∧
      (∀ box ∈ t.containers, ∀ id, ∃ arena, t.draft.arena.attach? box id = some arena) ∧
      (∀ id < t.nextId, ∃ tree, t.draft.arena.tree? id = some tree ∧
        t.draft.arena.Builds id tree) ∧
      ∀ place, List.Forall₂ t.draft.arena.Builds (t.draft.ids place) (t.draft.trees place) := by
  intro t ht
  obtain ⟨o, hleads⟩ := leads_of_mem_history ht
  have hnested : Nested ⟨t, o⟩ := nested_of_leads (nested_start scope output) hleads
  have horderly : t.Orderly := hnested.orderly
  refine ⟨horderly, ?_, ?_, ?_⟩
  · intro box hbox id
    exact ⟨_, Arena.attach?_of_isTextBox (horderly.containers box hbox).2 id⟩
  · intro id hid
    exact Arena.tree?_builds hnested.draft.children hid
  · intro place
    exact Draft.trees_builds hnested.draft place

/-- A text box with a cell in it, and with another text box after the cell. -/
def boxInBox : List Template.Node :=
  [.element ⟨.textBox, "TextBox", ⟨[]⟩, {}⟩
    [.element ⟨.cell, "Cell", ⟨[]⟩, {}⟩ [.text "outer"],
      .element ⟨.textBox, "TextBox", ⟨[]⟩, {}⟩
        [.element ⟨.cell, "Cell", ⟨[]⟩, {}⟩ [.text "inner"]]]]

/-- While the inner one of two text boxes is open, both of them are. -/
theorem orderly_of_boxInBox :
    ∃ t ∈ history {} boxInBox (.start {} {}), t.containers = [2, 0] ∧
      t.Orderly ∧
      (∀ box ∈ t.containers, ∀ id, ∃ arena, t.draft.arena.attach? box id = some arena) ∧
      (∀ id < t.nextId, ∃ tree, t.draft.arena.tree? id = some tree ∧
        t.draft.arena.Builds id tree) ∧
      ∀ place, List.Forall₂ t.draft.arena.Builds (t.draft.ids place) (t.draft.trees place) := by
  have hopen : ((history {} boxInBox (.start {} {}))[5]?.map State.containers) = some [2, 0] := by
    decide +kernel
  obtain ⟨t, ht, hcontainers⟩ := Option.map_eq_some_iff.mp hopen
  have hmem : t ∈ history {} boxInBox (.start {} {}) := List.mem_of_getElem? ht
  exact ⟨t, hmem, hcontainers, orderly_of_mem_history {} boxInBox {} {} t hmem⟩

end Report

end Lineage
