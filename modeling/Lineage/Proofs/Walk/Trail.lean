import Lineage.Proofs.Walk.Edit

/-!
# A walk goes by edits

The end of an element does not say which element it ends: it takes what is on
top of the stacks of the state. That it is the element that was opened last is
a matter of the walk. Since the content of an element leaves the frame of the
state as it found it, the end of the element sees the stacks as its start has
left them, and closes what the start has opened:

> `trails_walkAll`: the history of a walk goes from state to state by edits, and
> a walk that succeeds has closed what it has opened.

A fact about documents can then be proved for each kind of edit, and holds at
any time of any run: `leads_of_mem_history`.
-/

namespace Lineage.Report

open Template (Head Node Tag)

variable {env : Environment} {rule : NestingRule} {outer : List Kind} {o : List Opened}
  {head : Head} {body : State → Outcome} {states : State → List State}

/-- A body that realizes a structured one leaves the frame as it found it,
skipped or not. -/
theorem Realizes.keepsFrame {meaning : State → Outcome} (h : Realizes body meaning) :
    KeepsFrame body := by
  intro s t ht
  cases hs : s.suppression.isClear with
  | true => exact h.frame_eq ht hs
  | false =>
    rw [h.inert hs] at ht
    cases ht
    rfl

namespace Trail

/-- Edits may follow a trail. -/
theorem before {m n k : Moment} {states : List State} (h : Trail rule m states n)
    (hn : Leads rule n k) : Trail rule m states k := by
  have h' := h.append (.stop hn)
  rwa [List.append_nil] at h'

end Trail

/-! ## Repeated blocks -/

namespace State

/-- Carrying out a body for an item goes by edits. -/
theorem trail_replayItem (env : Environment) (item : Item)
    (h : Trails rule outer body states) {s : State}
    (hs : s.suppression.isClear = true → kinds o = outer) :
    ∃ m, Trail rule ⟨s, o⟩ (s.replayStates env states item) m ∧
      (s.replayItem env body item).EndsAt o m := by
  unfold replayStates replayItem
  cases htaken : s.takeUp? env item with
  | none =>
    refine ⟨_, ?_, rfl⟩
    exact .stop (.of_desk rfl)
  | some t =>
    obtain ⟨hdesk, hsuppression⟩ := of_takeUp? htaken
    dsimp only
    unfold replay
    split
    · exact ⟨⟨t, o⟩, .stop (.of_desk hdesk), rfl⟩
    · -- the depth of replays is no part of the document
      have hdeep : Leads rule ⟨s, o⟩ ⟨{ t with replayDepth := t.replayDepth + 1 }, o⟩ :=
        .of_desk hdesk
      obtain ⟨m, htrail, hends⟩ := h { t with replayDepth := t.replayDepth + 1 } o fun hclear =>
        hs (hsuppression ▸ hclear)
      have hfrom := htrail.after hdeep
      cases hbody : body { t with replayDepth := t.replayDepth + 1 } with
      | ok u =>
        rw [hbody] at hends
        cases hends
        refine ⟨_, ?_, rfl⟩
        exact hfrom.before (.of_desk rfl)
      | error failure =>
        rw [hbody] at hends
        obtain ⟨state, o'⟩ := m
        cases hends
        refine ⟨⟨_, o'⟩, ?_, rfl⟩
        exact hfrom.before (.of_desk rfl)

theorem suppression_of_replayItem (hk : KeepsFrame body) {s t : State} {item : Item}
    (h : s.replayItem env body item = .ok t) : t.suppression = s.suppression := by
  unfold replayItem at h
  cases htaken : s.takeUp? env item with
  | none =>
    rw [htaken] at h
    cases h
    rfl
  | some u =>
    rw [htaken] at h
    calc t.suppression = u.suppression := congrArg Frame.suppression (keepsFrame_replay hk h)
      _ = s.suppression := (of_takeUp? htaken).2

/-- Carrying out a body for one item after the other goes by edits. -/
theorem trail_itemStates (env : Environment) (h : Trails rule outer body states)
    (hk : KeepsFrame body) (items : List Item) {s : State}
    (hs : s.suppression.isClear = true → kinds o = outer) :
    ∃ m, Trail rule ⟨s, o⟩ (itemStates env body states items s) m ∧
      Outcome.EndsAt (items.foldlM (replayItem env body) s) o m := by
  induction items generalizing s with
  | nil => exact ⟨⟨s, o⟩, .stop .refl, rfl⟩
  | cons item rest ih =>
    obtain ⟨m, htrail, hends⟩ := trail_replayItem env item h hs
    rw [itemStates, List.foldlM_cons]
    cases hitem : s.replayItem env body item with
    | error failure =>
      rw [hitem] at hends
      obtain ⟨state, o'⟩ := m
      cases hends
      exact ⟨⟨failure.state, o'⟩, htrail.append (.pass .refl (.stop .refl)), rfl⟩
    | ok t =>
      rw [hitem] at hends
      cases hends
      -- the next item finds the same blocks open
      have ht : t.suppression.isClear = true → kinds o = outer := by
        rw [suppression_of_replayItem hk hitem]
        exact hs
      obtain ⟨n, hrest, hn⟩ := ih ht
      exact ⟨n, htrail.append (.pass .refl hrest), hn⟩

/-- The end of a repeated block goes by edits. -/
theorem trail_repeatStates (env : Environment) (h : Trails rule outer body states)
    (hk : KeepsFrame body) {s : State}
    (hs : { s.suppression with repeats := s.suppression.repeats - 1 }.isClear = true →
      kinds o = outer) :
    ∃ m, Trail rule ⟨s, o⟩ (s.repeatStates env body states) m ∧
      (s.endRepeat env body).EndsAt o m := by
  unfold repeatStates endRepeat
  dsimp only
  split
  · refine ⟨_, ?_, rfl⟩
    exact .stop (.of_desk rfl)
  · cases hitems : s.collected with
    | nil =>
      refine ⟨_, ?_, rfl⟩
      exact .stop (.of_desk rfl)
    | cons items rest =>
      dsimp only
      rw [replayItems_eq]
      generalize hu : State.beginItems _ items = u
      have hdesk : u.desk = s.desk := by
        rw [← hu, desk_beginItems]
        rfl
      have hclear : u.suppression.isClear = true → kinds o = outer := by
        rw [← hu, suppression_beginItems]
        exact hs
      obtain ⟨m, htrail, hends⟩ := trail_itemStates env h hk items.toList hclear
      have hfrom : Trail rule ⟨s, o⟩ (u :: itemStates env body states items.toList u) m :=
        .pass (.of_desk hdesk) htrail
      cases hreplayed : items.toList.foldlM (replayItem env body) u with
      | ok t =>
        rw [hreplayed] at hends
        cases hends
        -- the active text is restored
        refine ⟨_, ?_, rfl⟩
        exact hfrom.before (.of_desk rfl)
      | error failure =>
        rw [hreplayed] at hends
        exact ⟨m, hfrom, hends⟩

end State

/-! ## The end of an element -/

/-- The end of an element adds the state of its failure, if it fails. -/
theorem trail_leaveStates {s : State} {m n : Moment}
    (h : Trail rule m
      (if s.suppression.allows head.tag && head.tag.isRepeat then s.repeatStates env body states
        else []) n)
    (hn : (leave env head body s).EndsAt o n) :
    ∃ n, Trail rule m (leaveStates env head body states s) n ∧
      (leave env head body s).EndsAt o n := by
  unfold leaveStates
  cases hleave : leave env head body s with
  | ok t =>
    rw [hleave] at hn
    exact ⟨n, h.append (.stop .refl), hn⟩
  | error failure =>
    rw [hleave] at hn
    obtain ⟨state, o'⟩ := n
    cases hn
    exact ⟨_, h.append (.pass .refl (.stop .refl)), rfl⟩

/-- The end of an element that does not carry its content out again. -/
theorem trail_leaveStates_of_leads {s : State} {m n : Moment}
    (hr : (s.suppression.allows head.tag && head.tag.isRepeat) = false) (h : Leads rule m n)
    (hn : (leave env head body s).EndsAt o n) :
    ∃ n, Trail rule m (leaveStates env head body states s) n ∧
      (leave env head body s).EndsAt o n := by
  refine trail_leaveStates ?_ hn
  rw [hr]
  exact .stop h

/-- The end of an element that has nothing to do with the document. -/
theorem trail_leaveStates_of_desk {s : State}
    (hr : (s.suppression.allows head.tag && head.tag.isRepeat) = false)
    (h : (leave env head body s).state.desk = s.desk) :
    ∃ n, Trail rule ⟨s, o⟩ (leaveStates env head body states s) n ∧
      (leave env head body s).EndsAt o n := by
  have hends : (leave env head body s).EndsAt o ⟨(leave env head body s).state, o⟩ := by
    cases leave env head body s <;> rfl
  exact trail_leaveStates_of_leads hr (.of_desk h) hends

/-! ## Elements around their content -/

/-- An element around its content: its start goes from `s` to `t` by edits, and
from a state with the frame of `t` its end closes what its start has opened. -/
structure Encloses (rule : NestingRule) (env : Environment) (head : Head) (outer : List Kind)
    (s t : State) (o o' : List Opened) : Prop where
  enters : Leads rule ⟨s, o⟩ ⟨t, o'⟩
  within : t.suppression.isClear = true → kinds o' = head.tag.within outer
  leaves : ∀ {body : State → Outcome} {states : State → List State} {u : State},
    Trails rule (head.tag.within outer) body states → KeepsFrame body → u.frame = t.frame →
      ∃ m, Trail rule ⟨u, o'⟩ (leaveStates env head body states u) m ∧
        (leave env head body u).EndsAt o m

/-- The counters are in the frame. -/
theorem suppression_of_frame {s t : State} (h : t.frame = s.frame) :
    t.suppression = s.suppression :=
  congrArg Frame.suppression h

/-- What is not counted is allowed only while nothing is skipped. -/
theorem isClear_of_allows {c : Suppression} {tag : Tag} (hc : tag.isCounted = false)
    (ha : c.allows tag = true) : c.isClear = true := by
  cases hclear : c.isClear with
  | true => rfl
  | false =>
    rw [Suppression.isCounted_of_counter_pos (Suppression.counter_pos hclear ha)] at hc
    cases hc

theorem isRepeat_of_not_isCounted {tag : Tag} (hc : tag.isCounted = false) :
    tag.isRepeat = false := by
  cases tag <;> first | rfl | cases hc

namespace State

/-- A `Gedcom` block is counted when it is skipped, and only then. -/
theorem suppression_beginSwitch (env : Environment) (attrs : Attributes) (s : State) :
    (s.beginSwitch env attrs).suppression = s.suppression ∨
      (s.beginSwitch env attrs).suppression = (s.skip .gedcom).suppression := by
  unfold beginSwitch
  dsimp only
  split
  · exact .inr rfl
  · split
    · exact .inr rfl
    · exact .inl (suppression_switchTo s _)

theorem desk_endFootnote_of_hidden {s : State} {rest : List FootnoteFrame}
    (h : s.footnoteFrames = .hidden :: rest) : s.endFootnote.desk = s.desk := by
  unfold endFootnote desk
  rw [h]
  rfl

/-- A footnote is skipped or filled. -/
theorem beginFootnote_cases (env : Environment) (attrs : Attributes) (s : State) :
    s.beginFootnote env attrs = s.skipFootnote ∨
      ∃ style, s.beginFootnote env attrs = s.openFootnote style := by
  unfold beginFootnote
  split
  · exact .inl rfl
  · split
    · exact .inl rfl
    · split
      · exact .inr ⟨_, rfl⟩
      · exact .inl rfl

end State

/-- An element that is not allowed to do anything. -/
theorem encloses_of_not_allows {s : State} (ha : s.suppression.allows head.tag = false) :
    Encloses rule env head outer s s o o where
  enters := .refl
  within hclear := by
    rw [Suppression.allows_of_isClear hclear] at ha
    cases ha
  leaves {body states u} _ _ hu := by
    have hallows : u.suppression.allows head.tag = false := by
      rw [suppression_of_frame hu, ha]
    refine trail_leaveStates_of_desk ?_ ?_
    · rw [hallows, Bool.false_and]
    · rw [leave_of_not_allows hallows]
      rfl

/-- A cell or a run of text. -/
theorem encloses_text {s t : State} (htag : head.tag = .cell ∨ head.tag = .text)
    (hs : s.suppression.isClear = true) (ho : kinds o = outer) (hrule : rule .text outer = true)
    (ht : startElement env head s = .ok t) :
    ∃ o', Encloses rule env head outer s t o o' := by
  obtain ⟨e, he, hstart⟩ : ∃ e : Element, e.isText = true ∧ t = s.beginText e := by
    obtain ⟨tag, name, attributes, location⟩ := head
    obtain rfl | rfl := htag <;> rw [startElement, Except.ok.injEq] at ht
    · exact ⟨_, rfl, ht.symm⟩
    · exact ⟨_, rfl, ht.symm⟩
  have hend (body : State → Outcome) (u : State) : endElement env head body u = .ok u.endText := by
    obtain ⟨tag, name, attributes, location⟩ := head
    obtain rfl | rfl := htag <;> rfl
  have hwithin : head.tag.within outer = .text :: outer := by
    obtain htag | htag := htag <;> rw [htag] <;> rfl
  subst hstart
  refine ⟨.text s.nextId :: o, ?_, ?_, ?_⟩
  · exact .single (.openText s he (ho ▸ hrule))
  · intro _
    rw [hwithin, ← ho]
    rfl
  · intro body states u _ _ hu
    have hallows : u.suppression.allows head.tag = true := by
      rw [suppression_of_frame hu]
      exact Suppression.allows_of_isClear hs _
    have hleave : leave env head body u = .ok u.endText := by
      rw [leave_of_allows hallows, hend]
    refine trail_leaveStates_of_leads ?_ (.single (.closeText u o s.nextId)) ?_
    · obtain htag | htag := htag <;> rw [htag, Bool.and_comm] <;> rfl
    · rw [hleave]
      rfl

/-- A text box. -/
theorem encloses_box {s t : State} (htag : head.tag = .textBox)
    (hs : s.suppression.isClear = true) (ho : kinds o = outer) (hrule : rule .box outer = true)
    (ht : startElement env head s = .ok t) :
    ∃ o', Encloses rule env head outer s t o o' := by
  obtain ⟨tag, name, attributes, location⟩ := head
  cases htag
  rw [startElement, Except.ok.injEq] at ht
  subst ht
  refine ⟨.box s.nextId :: o, ?_, ?_, ?_⟩
  · exact .single (.openBox s _ (ho ▸ hrule))
  · intro _
    rw [← ho]
    rfl
  · intro body states u _ _ hu
    have hcontainers : u.containers = s.nextId :: s.containers := congrArg Frame.containers hu
    have hallows : u.suppression.allows .textBox = true := by
      rw [suppression_of_frame hu]
      exact Suppression.allows_of_isClear hs _
    refine trail_leaveStates_of_leads ?_ (.single (.closeBox o hcontainers)) ?_
    · rw [Bool.and_comm]
      rfl
    · rw [leave_of_allows hallows]
      rfl

/-- An element that is not counted and opens nothing. -/
theorem encloses_of_plain {s t : State} (hc : head.tag.isCounted = false)
    (hopening : head.tag.isOpening = false) (hs : s.suppression.isClear = true)
    (ho : kinds o = outer) (ht : startElement env head s = .ok t) :
    Encloses rule env head outer s t o o where
  enters := leads_startElement hc hopening ht
  within _ := by
    rw [ho]
    obtain ⟨tag, name, attributes, location⟩ := head
    cases tag with
    | footnote => cases hc
    | cell | text | textBox => cases hopening
    | _ => rfl
  leaves {body states u} _ _ hu := by
    have hallows : u.suppression.allows head.tag = true := by
      rw [suppression_of_frame hu, suppression_startElement hc ht]
      exact Suppression.allows_of_isClear hs _
    refine trail_leaveStates_of_desk ?_ ?_
    · rw [isRepeat_of_not_isCounted hc, Bool.and_false]
    · rw [leave_of_allows hallows]
      exact desk_endElement u hc hopening

/-- An `if` block: its condition is no part of the document. -/
theorem encloses_ifTag {s t : State} (htag : head.tag = .ifTag)
    (hs : s.suppression.isClear = true → kinds o = outer)
    (ht : startElement env head s = .ok t) : Encloses rule env head outer s t o o := by
  obtain ⟨tag, name, attributes, location⟩ := head
  cases htag
  have hbegin : t = s ∨ t = s.skip .ifTag := by
    rw [startElement] at ht
    dsimp only at ht
    unfold State.beginCondition at ht
    dsimp only at ht
    split at ht
    · exact .inr (Except.ok.inj ht.symm)
    · split at ht
      · cases ht
      · exact .inl (Except.ok.inj ht.symm)
      · exact .inr (Except.ok.inj ht.symm)
  have hleaves {body : State → Outcome} {states : State → List State} (u : State) :
      ∃ m,
        Trail rule ⟨u, o⟩ (leaveStates env ⟨.ifTag, name, attributes, location⟩ body states u) m ∧
        (leave env ⟨.ifTag, name, attributes, location⟩ body u).EndsAt o m := by
    refine trail_leaveStates_of_desk (Bool.and_false _) ?_
    rw [leave]
    split <;> rfl
  obtain rfl | rfl := hbegin
  · exact ⟨.refl, hs, fun _ _ _ => hleaves _⟩
  · refine ⟨.of_desk rfl, ?_, fun _ _ _ => hleaves _⟩
    intro hclear
    rw [isClear_skip rfl s] at hclear
    cases hclear

/-- A `Gedcom` block: the active text is no part of the document. -/
theorem encloses_gedcom {s t : State} (htag : head.tag = .gedcom)
    (hs : s.suppression.isClear = true → kinds o = outer)
    (ht : startElement env head s = .ok t) : Encloses rule env head outer s t o o := by
  obtain ⟨tag, name, attributes, location⟩ := head
  cases htag
  rw [startElement, Except.ok.injEq] at ht
  subst ht
  refine ⟨.of_desk (State.desk_beginSwitch _ s), ?_, ?_⟩
  · intro hclear
    refine hs ?_
    rcases State.suppression_beginSwitch env (attributes.resolve s.scope) s with h | h
    · rwa [← h]
    · rw [h, isClear_skip rfl s] at hclear
      cases hclear
  · intro body states u _ _ _
    refine trail_leaveStates_of_desk (Bool.and_false _) ?_
    rw [leave]
    split
    · exact State.desk_endSwitch u
    · rfl

/-- A footnote that is skipped. -/
theorem encloses_hiddenFootnote {s : State} (htag : head.tag = .footnote) :
    Encloses rule env head outer s s.skipFootnote o o where
  enters := .of_desk s.desk_skipFootnote
  within hclear := by
    rw [show s.skipFootnote = s.skip .footnote from rfl, isClear_skip rfl s] at hclear
    cases hclear
  leaves {body states u} _ _ hu := by
    have hframes : u.footnoteFrames = .hidden :: s.footnoteFrames :=
      congrArg Frame.footnoteFrames hu
    obtain ⟨tag, name, attributes, location⟩ := head
    cases htag
    refine trail_leaveStates_of_desk (Bool.and_false _) ?_
    rw [leave]
    split
    · exact State.desk_endFootnote_of_hidden hframes
    · rfl

/-- A footnote that is filled. -/
theorem encloses_visibleFootnote {s : State} {style : String} (htag : head.tag = .footnote)
    (hs : s.suppression.isClear = true) (ho : kinds o = outer)
    (hrule : rule .footnote outer = true) :
    Encloses rule env head outer s (s.openFootnote style) o
      (.footnote s.nextId s.current :: o) where
  enters := .single (.openFootnote s style (ho ▸ hrule))
  within _ := by
    rw [htag, ← ho]
    rfl
  leaves {body states u} _ _ hu := by
    have hframes : u.footnoteFrames = .visible s.nextId s.current :: s.footnoteFrames :=
      congrArg Frame.footnoteFrames hu
    have hallows : u.suppression.allows head.tag = true := by
      rw [suppression_of_frame hu]
      exact Suppression.allows_of_isClear hs _
    obtain ⟨tag, name, attributes, location⟩ := head
    cases htag
    refine trail_leaveStates_of_leads (Bool.and_false _) (.single (.closeFootnote o hframes)) ?_
    rw [leave_of_allows hallows]
    rfl

theorem encloses_footnote {s t : State} (htag : head.tag = .footnote)
    (ha : s.suppression.allows head.tag = true)
    (hs : s.suppression.isClear = true → kinds o = outer)
    (hrule : rule .footnote outer = true) (ht : startElement env head s = .ok t) :
    ∃ o', Encloses rule env head outer s t o o' := by
  cases hclear : s.suppression.isClear with
  | false =>
    -- inside of what is skipped only the counter of footnotes lets a footnote start
    rw [startElement_inert env (Suppression.counter_pos hclear ha), htag] at ht
    cases ht
    exact ⟨o, encloses_hiddenFootnote htag⟩
  | true =>
    have hbegin : s.beginFootnote env (head.attributes.resolve s.scope) = t := by
      rw [startElement, htag] at ht
      exact Except.ok.inj ht
    subst hbegin
    obtain hskip | ⟨style, hopen⟩ :=
      s.beginFootnote_cases env (head.attributes.resolve s.scope)
    · rw [hskip]
      exact ⟨o, encloses_hiddenFootnote htag⟩
    · rw [hopen]
      exact ⟨_, encloses_visibleFootnote htag hclear (hs hclear) hrule⟩

/-- What the start of a repeated block makes of a state: the block is counted,
and if it is an outermost one its items are kept. Only a block that prints the
active description has done anything else before. -/
theorem startElement_of_isRepeat {s t : State} (hr : head.tag.isRepeat = true)
    (ht : startElement env head s = .ok t) :
    ∃ u, (u = s ∨ ∃ text, u = s.addText text) ∧
      (t = u.enterRepeat ∨ ∃ items, t = u.enterRepeat.keepItems items) := by
  obtain ⟨tag, name, attributes, location⟩ := head
  cases tag with
  | repeatTag =>
    rw [startElement, Except.ok.injEq] at ht
    subst ht
    unfold State.beginParts
    dsimp only
    split
    · split
      · exact ⟨s, .inl rfl, .inr ⟨_, rfl⟩⟩
      · rw [State.addText_enterRepeat]
        exact ⟨_, .inr ⟨_, rfl⟩, .inr ⟨_, rfl⟩⟩
      · exact ⟨s, .inl rfl, .inr ⟨_, rfl⟩⟩
    · exact ⟨s, .inl rfl, .inl rfl⟩
  | facts =>
    rw [startElement, Except.ok.injEq] at ht
    subst ht
    unfold State.beginFacts
    dsimp only
    split
    · exact ⟨s, .inl rfl, .inr ⟨_, rfl⟩⟩
    · exact ⟨s, .inl rfl, .inl rfl⟩
  | list =>
    rw [startElement] at ht
    unfold State.beginList at ht
    dsimp only at ht
    split at ht
    · split at ht
      · cases ht
        exact ⟨s, .inl rfl, .inr ⟨_, rfl⟩⟩
      · cases ht
    · cases ht
      exact ⟨s, .inl rfl, .inl rfl⟩
  | relatives =>
    rw [startElement, Except.ok.injEq] at ht
    subst ht
    unfold State.beginRelatives
    dsimp only
    split
    · exact ⟨s, .inl rfl, .inr ⟨_, rfl⟩⟩
    · exact ⟨s, .inl rfl, .inl rfl⟩
  | _ => cases hr

/-- The start of a repeated block goes by edits and counts the block. -/
theorem leads_startElement_of_isRepeat (rule : NestingRule) (o : List Opened) {s t : State}
    (hr : head.tag.isRepeat = true) (ht : startElement env head s = .ok t) :
    Leads rule ⟨s, o⟩ ⟨t, o⟩ ∧ t.suppression = s.enterRepeat.suppression := by
  obtain ⟨u, hu, hkept⟩ := startElement_of_isRepeat hr ht
  have hwrites : Leads rule ⟨s, o⟩ ⟨u, o⟩ ∧ u.suppression = s.suppression := by
    obtain rfl | ⟨text, rfl⟩ := hu
    · exact ⟨.refl, rfl⟩
    · exact ⟨.single (.write s o text), suppression_of_frame (State.frame_addText s text)⟩
  have hkeeps : t.desk = u.desk ∧ t.suppression = u.enterRepeat.suppression := by
    obtain rfl | ⟨items, rfl⟩ := hkept
    · exact ⟨rfl, rfl⟩
    · exact ⟨rfl, rfl⟩
  refine ⟨hwrites.1.tail (.idle hkeeps.1), ?_⟩
  rw [hkeeps.2, State.enterRepeat, State.enterRepeat, hwrites.2]

theorem endElement_of_isRepeat (hr : head.tag.isRepeat = true) (s : State) :
    endElement env head body s = s.endRepeat env body := by
  obtain ⟨tag, name, attributes, location⟩ := head
  cases tag <;> first | rfl | cases hr

/-- A block that is repeated. -/
theorem encloses_of_isRepeat {s t : State} (hr : head.tag.isRepeat = true)
    (hs : s.suppression.isClear = true → kinds o = outer)
    (ht : startElement env head s = .ok t) : Encloses rule env head outer s t o o := by
  obtain ⟨henters, hcounts⟩ := leads_startElement_of_isRepeat rule o hr ht
  have hwithin : head.tag.within outer = outer := by
    obtain ⟨tag, name, attributes, location⟩ := head
    cases tag <;> first | rfl | cases hr
  -- the end of the block takes its counting back before it carries the body out
  have hafter {u : State} (hu : u.frame = t.frame) :
      { u.suppression with repeats := u.suppression.repeats - 1 } = s.suppression := by
    rw [suppression_of_frame hu, hcounts]
    rfl
  refine ⟨henters, ?_, ?_⟩
  · intro hclear
    rw [hcounts, show s.enterRepeat = s.skip .repeatTag from rfl, isClear_skip rfl s] at hclear
    cases hclear
  · intro body states u hbody hk hu
    rw [hwithin] at hbody
    cases hallows : u.suppression.allows head.tag with
    | false =>
      refine trail_leaveStates_of_desk ?_ ?_
      · rw [hallows, Bool.false_and]
      · rw [leave_of_not_allows hallows]
        rfl
    | true =>
      have hu' : { u.suppression with repeats := u.suppression.repeats - 1 }.isClear = true →
          kinds o = outer := by
        rw [hafter hu]
        exact hs
      obtain ⟨m, htrail, hends⟩ := State.trail_repeatStates env hbody hk hu'
      refine trail_leaveStates (m := ⟨u, o⟩) (n := m) ?_ ?_
      · rw [hallows, hr]
        exact htrail
      · rw [leave_of_allows hallows, endElement_of_isRepeat hr]
        exact hends

/-- **Every element encloses its content.** -/
theorem exists_encloses {s t : State} (hs : s.suppression.isClear = true → kinds o = outer)
    (hrule : ∀ kind, head.tag.opens? = some kind → rule kind outer = true)
    (ht : enter env head s = .ok t) : ∃ o', Encloses rule env head outer s t o o' := by
  cases ha : s.suppression.allows head.tag with
  | false =>
    rw [enter_of_not_allows ha] at ht
    cases ht
    exact ⟨o, encloses_of_not_allows ha⟩
  | true =>
    rw [enter_of_allows ha] at ht
    cases hc : head.tag.isCounted with
    | false =>
      have hclear := isClear_of_allows hc ha
      have ho := hs hclear
      cases htag : head.tag with
      | cell => exact encloses_text (.inl htag) hclear ho (hrule _ (by rw [htag]; rfl)) ht
      | text => exact encloses_text (.inr htag) hclear ho (hrule _ (by rw [htag]; rfl)) ht
      | textBox => exact encloses_box htag hclear ho (hrule _ (by rw [htag]; rfl)) ht
      | _ => exact ⟨o, encloses_of_plain hc (by rw [htag]; rfl) hclear ho ht⟩
    | true =>
      cases htag : head.tag with
      | ifTag => exact ⟨o, encloses_ifTag htag hs ht⟩
      | gedcom => exact ⟨o, encloses_gedcom htag hs ht⟩
      | footnote => exact encloses_footnote htag ha hs (hrule _ (by rw [htag]; rfl)) ht
      | repeatTag | facts | list | relatives =>
        exact ⟨o, encloses_of_isRepeat (by rw [htag]; rfl) hs ht⟩
      | _ =>
        rw [htag] at hc
        cases hc

/-! ## Walks -/

/-- A start that fails has done nothing to the document. -/
theorem desk_of_enter_error {s : State} {failure : Failure}
    (h : enter env head s = .error failure) : failure.state.desk = s.desk := by
  cases ha : s.suppression.allows head.tag with
  | false =>
    rw [enter_of_not_allows ha] at h
    exact absurd h Outcome.ok_ne_error
  | true =>
    rw [enter_of_allows ha] at h
    exact desk_of_startElement_error h

/-- An element goes by edits, provided that its content does. -/
theorem trails_element (env : Environment) {children : List Node}
    (hrule : ∀ kind, head.tag.opens? = some kind → rule kind outer = true)
    (hbody : Trails rule (head.tag.within outer) (walkAll env children) (history env children)) :
    Trails rule outer (carryOut env head (walkAll env children))
      (nodeStates env (.element head children)) := by
  intro s o hs
  rw [nodeStates]
  cases henter : enter env head s with
  | error failure =>
    refine ⟨⟨failure.state, o⟩, .pass (.of_desk (desk_of_enter_error henter)) (.stop .refl), ?_⟩
    rw [carryOut, henter]
    rfl
  | ok t =>
    rw [carryOut_of_enter henter]
    dsimp only
    obtain ⟨o', hencloses⟩ := exists_encloses hs hrule henter
    obtain ⟨m, htrail, hends⟩ := hbody t o' hencloses.within
    cases hwalk : walkAll env children t with
    | error failure =>
      rw [hwalk] at hends
      exact ⟨m, (htrail.append (.stop .refl)).after hencloses.enters, hends⟩
    | ok u =>
      rw [hwalk] at hends
      cases hends
      have hkeeps : KeepsFrame (walkAll env children) := (realizes_walkAll env children).keepsFrame
      obtain ⟨n, hleave, hn⟩ := hencloses.leaves hbody hkeeps (hkeeps hwalk)
      exact ⟨n, (htrail.append hleave).after hencloses.enters, hn⟩

/-- **A walk goes by edits**, and when it succeeds it has closed what it has
opened. -/
theorem trails_walkAll (env : Environment) {nodes : List Node}
    (h : Node.obeysIn rule outer nodes = true) :
    Trails rule outer (walkAll env nodes) (history env nodes) := by
  induction nodes using Node.forest generalizing outer with
  | nil =>
    intro s o _
    rw [history_nil, walkAll_nil]
    exact ⟨⟨s, o⟩, .pass .refl (.stop .refl), rfl⟩
  | text text rest ih =>
    intro s o hs
    rw [history_text, walkAll_text]
    generalize ht : (if s.printsText = true then s.addText text else s) = t
    have hleads : Leads rule ⟨s, o⟩ ⟨t, o⟩ ∧ t.suppression = s.suppression := by
      rw [← ht]
      split
      · exact ⟨.single (.write s o text), suppression_of_frame (State.frame_addText s text)⟩
      · exact ⟨.refl, rfl⟩
    obtain ⟨m, htrail, hends⟩ := ih (Node.obeysIn_text h) t o (hleads.2 ▸ hs)
    exact ⟨m, .pass .refl (htrail.after hleads.1), hends⟩
  | element head children rest ihChildren ihRest =>
    intro s o hs
    obtain ⟨hrule, hchildren, hrest⟩ := Node.obeysIn_element h
    obtain ⟨m, htrail, hends⟩ :=
      trails_element env hrule (ihChildren hchildren) s o hs
    rw [history_element, walkAll_element]
    cases hcarried : carryOut env head (walkAll env children) s with
    | error failure =>
      rw [hcarried] at hends
      exact ⟨m, .pass .refl (htrail.append (.stop .refl)), hends⟩
    | ok t =>
      rw [hcarried] at hends
      cases hends
      -- an element leaves the counters as it found them, so the rule goes on to apply
      have hkeeps : KeepsFrame (carryOut env head (walkAll env children)) :=
        ((realizes_walkAll env children).carryOut env head).keepsFrame
      have ht : t.suppression.isClear = true → kinds o = outer := by
        rw [suppression_of_frame (hkeeps hcarried)]
        exact hs
      obtain ⟨n, hfrom, hn⟩ := ihRest hrest t o ht
      exact ⟨n, .pass .refl (htrail.append hfrom), hn⟩

/-- The moment from which a run starts. -/
def Moment.start (scope : Scope) (output : Output) : Moment :=
  ⟨.start scope output, []⟩

variable {template : List Node} {scope : Scope} {output : Output}

/-- A template that obeys a rule is run by edits that obey it. -/
theorem exists_trail (h : Node.obeysIn rule [] template = true) (env : Environment)
    (scope : Scope) (output : Output) :
    ∃ m, Trail rule (.start scope output) (history env template (.start scope output)) m ∧
      (run env template scope output).EndsAt [] m :=
  trails_walkAll env h (.start scope output) [] fun _ => rfl

/-- Any template is run by edits. -/
theorem leads_of_mem_history {s : State}
    (h : s ∈ history env template (.start scope output)) :
    ∃ o, Leads (fun _ _ => true) (.start scope output) ⟨s, o⟩ := by
  obtain ⟨_, htrail, _⟩ := exists_trail (Node.obeysIn_true template []) env scope output
  exact htrail.reaches h

/-- Of two states of a run, the later one is reached from the earlier one. -/
theorem pairwise_history (env : Environment) (template : List Node) (scope : Scope)
    (output : Output) :
    (history env template (.start scope output)).Pairwise fun s t =>
      ∃ o o', Leads (fun _ _ => true) (.start scope output) ⟨s, o⟩ ∧
        Leads (fun _ _ => true) ⟨s, o⟩ ⟨t, o'⟩ := by
  obtain ⟨_, htrail, _⟩ := exists_trail (Node.obeysIn_true template []) env scope output
  exact htrail.pairwise

end Lineage.Report
