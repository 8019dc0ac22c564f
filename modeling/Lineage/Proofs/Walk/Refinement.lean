import Lineage.Proofs.Walk.Counters

/-!
# The walk has the structured meaning

`Skipped` says what the walk does while something is skipped: nothing.
`Structured` gives templates a meaning for when nothing is skipped. This file
puts the two together. A body that is walked `Realizes` a structured one when
it does nothing while something is skipped, and what the structured one does
otherwise. `Realizes.carryOut` shows, one kind of element after the other, that
this goes from the content of an element to the element; an induction over the
nodes of a template then gives

> `realizes_walkAll`: the walk realizes the meaning of the template,

and with it the stack discipline of the walk, since the meaning of a template
obeys it (`performAll_keepsFrame`):

> `walkAll_frame`: a walk that succeeds leaves the frame as it found it.

Failures are compared up to the counters: a list with an unknown name fails
after its start has been counted.
-/

namespace Lineage.Report

open Template (Head Node)

/-- A failure without the counters of the state that it has reached. -/
def Failure.cleared (failure : Failure) : Failure :=
  { failure with state.suppression := {} }

theorem Failure.cleared_of_isClear {failure : Failure}
    (h : failure.state.suppression.isClear = true) : failure.cleared = failure := by
  unfold cleared
  rw [← Suppression.isClear_iff.mp h]

/-- Whether nothing is skipped depends on the frame alone. -/
theorem isClear_of_frame {s t : State} (h : t.frame = s.frame)
    (hs : s.suppression.isClear = true) : t.suppression.isClear = true := by
  have hsuppression : t.suppression = s.suppression := congrArg Frame.suppression h
  rw [hsuppression, hs]

/-- A body that is walked, skipped or not, carries out a structured one. -/
structure Realizes (body meaning : State → Outcome) : Prop where
  inert : ∀ {s : State}, s.suppression.isClear = false → body s = .ok s
  agrees : ∀ {s : State}, s.suppression.isClear = true →
    (body s).mapError Failure.cleared = meaning s
  keeps : KeepsFrame meaning

namespace Realizes

variable {env : Environment} {attrs : Attributes} {body meaning : State → Outcome}

/-! ## Outcomes of realized bodies -/

theorem eq_ok (h : Realizes body meaning) {s t : State} (ht : body s = .ok t)
    (hs : s.suppression.isClear = true) : meaning s = .ok t := by
  rw [← h.agrees hs, ht]
  rfl

theorem eq_error (h : Realizes body meaning) {s : State} {failure : Failure}
    (hf : body s = .error failure) (hs : s.suppression.isClear = true) :
    meaning s = .error failure.cleared := by
  rw [← h.agrees hs, hf]
  rfl

/-- A realized body leaves the frame as it found it. -/
theorem frame_eq (h : Realizes body meaning) {s t : State} (ht : body s = .ok t)
    (hs : s.suppression.isClear = true) : t.frame = s.frame :=
  h.keeps (h.eq_ok ht hs)

/-- After a realized body, nothing is skipped if nothing was. -/
theorem isClear (h : Realizes body meaning) {s t : State} (ht : body s = .ok t)
    (hs : s.suppression.isClear = true) : t.suppression.isClear = true :=
  isClear_of_frame (h.frame_eq ht hs) hs

/-! ## Repeated bodies -/

theorem replay_agrees (h : Realizes body meaning) {s : State}
    (hs : s.suppression.isClear = true) :
    (s.replay env body).mapError Failure.cleared = s.replay env meaning := by
  unfold State.replay
  split
  · exact congrArg Except.error (Failure.cleared_of_isClear hs)
  · cases hb : body { s with replayDepth := s.replayDepth + 1 } with
    | ok t => rw [h.eq_ok hb hs]; rfl
    | error failure => rw [h.eq_error hb hs]; rfl

/-- Two sequences of steps agree when their steps do and keep the counters
clear. -/
theorem foldlM_agrees {α : Type} {step step' : State → α → Outcome}
    (hstep : ∀ {s : State} {a : α}, s.suppression.isClear = true →
      (step s a).mapError Failure.cleared = step' s a)
    (hclear : ∀ {s t : State} {a : α}, s.suppression.isClear = true → step' s a = .ok t →
      t.suppression.isClear = true) :
    ∀ (items : List α) {s : State}, s.suppression.isClear = true →
      (items.foldlM step s).mapError Failure.cleared = items.foldlM step' s
  | [], s, _ => rfl
  | a :: rest, s, hs => by
    rw [List.foldlM_cons, List.foldlM_cons, ← hstep hs]
    cases hb : step s a with
    | error failure => rfl
    | ok t =>
      have ht : step' s a = .ok t := by
        rw [← hstep hs, hb]
        rfl
      exact foldlM_agrees hstep hclear rest (hclear hs ht)

theorem replayItems_agrees (h : Realizes body meaning) (items : Items) {s : State}
    (hs : s.suppression.isClear = true) :
    (State.replayItems env body s items).mapError Failure.cleared =
      State.replayItems env meaning s items := by
  have hclear {s t : State} (ht : s.replay env meaning = .ok t)
      (hs : s.suppression.isClear = true) : t.suppression.isClear = true :=
    isClear_of_frame (State.keepsFrame_replay h.keeps ht) hs
  cases items with
  | parts texts =>
    rw [State.replayItems, State.replayItems]
    refine foldlM_agrees ?_ ?_ texts hs
    · intro s text hs
      exact h.replay_agrees hs
    · intro s t text hs ht
      exact hclear ht hs
  | facts facts =>
    rw [State.replayItems, State.replayItems]
    refine foldlM_agrees ?_ ?_ facts hs
    · intro s fact hs
      exact h.replay_agrees hs
    · intro s t fact hs ht
      exact hclear ht hs
  | records records =>
    rw [State.replayItems, State.replayItems]
    refine foldlM_agrees ?_ ?_ records hs
    · intro s record hs
      unfold State.replayRecord
      split
      · exact h.replay_agrees hs
      · rfl
    · intro s t record hs ht
      unfold State.replayRecord at ht
      split at ht
      · exact hclear ht hs
      · cases ht
        exact hs
  | relatives relatives =>
    rw [State.replayItems, State.replayItems]
    refine foldlM_agrees ?_ ?_ relatives hs
    · intro s relative hs
      exact h.replay_agrees hs
    · intro s t relative hs ht
      exact hclear ht hs

theorem forEach_agrees (h : Realizes body meaning) (items : Items) {s : State}
    (hs : s.suppression.isClear = true) :
    (s.forEach env items body).mapError Failure.cleared = s.forEach env items meaning := by
  unfold State.forEach
  rw [← h.replayItems_agrees items hs]
  cases State.replayItems env body s items <;> rfl

/-! ## Elements that open their content -/

/-- When nothing is skipped after the start of an element, its content is
carried out, and then its end. -/
theorem carryOut_of_start (h : Realizes body meaning) {head : Head} {s t : State}
    (hs : s.suppression.isClear = true) (ht : t.suppression.isClear = true)
    (hstart : startElement env head s = .ok t) :
    (carryOut env head body s).mapError Failure.cleared =
      (meaning t >>= fun u => (endElement env head body u).mapError Failure.cleared) := by
  rw [carryOut, enter_of_allows (Suppression.allows_of_isClear hs _), hstart, Outcome.ok_bind]
  cases hb : body t with
  | error failure =>
    rw [h.eq_error hb ht]
    rfl
  | ok u =>
    rw [h.eq_ok hb ht, Outcome.ok_bind, Outcome.ok_bind,
      leave_of_allows (Suppression.allows_of_isClear (h.isClear hb ht) _)]

theorem carryOut_of_start_error {head : Head} {s : State} {failure : Failure}
    (hs : s.suppression.isClear = true) (hstart : startElement env head s = .error failure) :
    carryOut env head body s = .error failure := by
  rw [carryOut, enter_of_allows (Suppression.allows_of_isClear hs _), hstart, Outcome.error_bind]

/-- Two continuations may be exchanged behind a structured body when they agree
on states with the frame that the body was given. -/
theorem bind_congr_of_frame (h : Realizes body meaning) {s : State} {f g : State → Outcome}
    (hfg : ∀ {t : State}, t.frame = s.frame → f t = g t) :
    (meaning s >>= f) = (meaning s >>= g) := by
  cases hm : meaning s with
  | error failure => rfl
  | ok t => exact hfg (h.keeps hm)

end Realizes

/-! ## Ends that give back what the start has taken -/

namespace State

theorem endCondition_of_isClear {s : State} (h : s.suppression.isClear = true) :
    s.endCondition = s := by
  have hsuppression := Suppression.isClear_iff.mp h
  cases s with
  | mk =>
    cases hsuppression
    rfl

/-- A repeated block is the outermost one if nothing is skipped at its start. -/
theorem repeats_enterRepeat {s : State} (h : s.suppression.isClear = true) :
    s.enterRepeat.suppression.repeats = 1 := by
  rw [enterRepeat, Suppression.isClear_iff.mp h]

/-- Counting a repeated block and printing text do not get in each other's
way. -/
theorem addText_enterRepeat (s : State) (text : String) :
    s.enterRepeat.addText text = (s.addText text).enterRepeat := by
  unfold addText
  cases hcurrent : s.current <;> simp only [enterRepeat, hcurrent]

theorem savedRecords_switchTo (s : State) (text : String) :
    (s.switchTo text).savedRecords =
      ⟨s.active.text, s.active.fact, s.active.description⟩ :: s.savedRecords := by
  unfold switchTo
  dsimp only

theorem suppression_switchTo (s : State) (text : String) :
    (s.switchTo text).suppression = s.suppression := by
  unfold switchTo
  dsimp only

/-- A switch to another record changes those parts of the active text that it
saves, and no others. -/
theorem active_switchTo (s : State) (text : String) :
    { (s.switchTo text).active with
      text := s.active.text, fact := s.active.fact, description := s.active.description } =
        s.active := by
  unfold switchTo
  dsimp only
  split <;> rfl

/-- The end of a switch to another record restores what its start has saved. -/
theorem endSwitch_of_frame {text : String} {s t u : State} (hs : s.suppression.isClear = true)
    (hu : u = s.switchTo text) (ht : t.frame = u.frame) :
    t.endSwitch = { t with active := s.active, savedRecords := s.savedRecords } := by
  have hsuppression : t.suppression = u.suppression := congrArg Frame.suppression ht
  have hsaved : t.savedRecords = u.savedRecords := congrArg Frame.savedRecords ht
  have hactive : t.active = u.active := congrArg Frame.active ht
  have hzero : ¬ 0 < t.suppression.switches := by
    rw [hsuppression, hu, suppression_switchTo]
    exact Suppression.not_counter_pos hs .gedcom
  rw [hu, savedRecords_switchTo] at hsaved
  rw [endSwitch, if_neg hzero, hsaved, hactive, hu]
  dsimp only
  rw [active_switchTo]

/-- The end of an outermost repeated block carries its body out for the items
on top of the stack. -/
theorem endRepeat_of_collected {env : Environment} {body : State → Outcome} {items : Items}
    {rest : List Items} {s t : State} (hzero : ¬ 0 < s.suppression.repeats - 1)
    (hitems : s.collected = items :: rest)
    (ht : { s with suppression.repeats := s.suppression.repeats - 1, collected := rest } = t) :
    s.endRepeat env body = t.forEach env items body := by
  subst ht
  unfold endRepeat forEach
  rw [if_neg hzero]
  dsimp only
  rw [hitems]
  dsimp only
  cases replayItems env body _ items <;> rfl

/-- With the items that its start has kept, that is the state before its
start. -/
theorem endRepeat_keepItems (env : Environment) (body : State → Outcome) (items : Items)
    {s : State} (h : s.suppression.isClear = true) :
    (s.enterRepeat.keepItems items).endRepeat env body = s.forEach env items body := by
  have hzero : ¬ 0 < s.suppression.repeats :=
    Suppression.not_counter_pos h .repeatTag
  exact endRepeat_of_collected hzero rfl rfl

end State

/-! ## Failures at the start and at the end of an element -/

namespace State

/-- A variable that cannot be assigned leaves the state alone. -/
theorem state_of_assign_error {env : Environment} {attrs : Attributes} {location : Location}
    {s : State} {failure : Failure} (h : s.assign env attrs location = .error failure) :
    failure.state = s := by
  unfold assign at h
  dsimp only at h
  split at h
  · cases h
    rfl
  · cases h

theorem suppression_of_endDocument_error {s : State} {failure : Failure}
    (h : s.endDocument = .error failure) : failure.state.suppression = s.suppression := by
  unfold endDocument at h
  dsimp only at h
  split at h
  · cases h
  · cases h
    rfl

end State

/-- When an element that is not counted fails at its start, nothing has been
counted. -/
theorem suppression_of_startElement_error {env : Environment} {head : Head} {s : State}
    {failure : Failure} (hc : head.tag.isCounted = false)
    (h : startElement env head s = .error failure) :
    failure.state.suppression = s.suppression := by
  obtain ⟨tag, name, attributes, location⟩ := head
  cases tag with
  | gedcom | ifTag | footnote | repeatTag | facts | list | relatives => cases hc
  | setVar => rw [State.state_of_assign_error (by rwa [startElement] at h)]
  | _ =>
    rw [startElement] at h
    exact absurd h Outcome.ok_ne_error

theorem suppression_of_endElement_error {env : Environment} {head : Head}
    {body : State → Outcome} {s : State} {failure : Failure} (hc : head.tag.isCounted = false)
    (h : endElement env head body s = .error failure) :
    failure.state.suppression = s.suppression := by
  obtain ⟨tag, name, attributes, location⟩ := head
  cases tag with
  | gedcom | ifTag | footnote | repeatTag | facts | list | relatives => cases hc
  | doc => exact State.suppression_of_endDocument_error h
  | _ =>
    rw [endElement] at h
    exact absurd h Outcome.ok_ne_error

/-- Only the end of a repeated block carries out the content of an element. -/
theorem endElement_of_not_isCounted {env : Environment} {head : Head} (body : State → Outcome)
    {s : State} (hc : head.tag.isCounted = false) :
    endElement env head body s = endElement env head .ok s := by
  obtain ⟨tag, name, attributes, location⟩ := head
  cases tag with
  | repeatTag | facts | list | relatives => cases hc
  | _ => rfl

/-- An `if` block whose condition is read starts, and it is skipped where the condition
does not hold. -/
theorem startElement_ifTag {env : Environment} {head : Head} {s : State}
    (htag : head.tag = .ifTag) (hs : s.suppression.isClear = true) {holds : Bool}
    (h : conditionHolds env s ((head.attributes.resolve s.scope).getD "condition" "") =
      .ok holds) :
    startElement env head s = .ok (if holds then s else s.skip .ifTag) := by
  have hzero : ¬ 0 < s.suppression.conditions := Suppression.not_counter_pos hs .ifTag
  rw [startElement, htag]
  simp only
  rw [State.beginCondition, if_neg hzero, h]
  cases holds <;> rfl

namespace Realizes

variable {env : Environment} {body meaning : State → Outcome}

/-- A skipped element realizes that nothing is done. -/
theorem carryOut_of_outermost (h : Realizes body meaning) {head : Head} {s : State}
    (hs : s.suppression.isClear = true) (hc : head.tag.isCounted = true)
    (hr : head.tag.isRepeat = false)
    (hstart : startElement env head s = .ok (s.skip head.tag)) :
    carryOut env head body s = .ok s := by
  refine carryOut_of_skip hc ?_ (Suppression.allows_of_isClear hs _) hstart fun t ht => h.inert ht
  intro hrepeat
  rw [hr] at hrepeat
  cases hrepeat

/-- An `if` block whose condition holds is carried out, and one whose condition
does not hold is skipped. -/
theorem agrees_ifTag (h : Realizes body meaning) {head : Head} {s : State}
    (htag : head.tag = .ifTag) (hs : s.suppression.isClear = true) :
    (carryOut env head body s).mapError Failure.cleared =
      s.whenHolds env (head.attributes.resolve s.scope) head.location meaning := by
  cases hholds : conditionHolds env s ((head.attributes.resolve s.scope).getD "condition" "") with
  | error cause =>
    obtain ⟨tag, name, attributes, location⟩ := head
    cases htag
    have hzero : ¬ 0 < s.suppression.conditions :=
      Suppression.not_counter_pos hs .ifTag
    have hstart : startElement env ⟨.ifTag, name, attributes, location⟩ s =
        .error ⟨.ofFormula location cause, s⟩ := by
      rw [startElement, State.beginCondition, if_neg hzero, hholds]
    rw [carryOut_of_start_error hs hstart, State.whenHolds, hholds]
    exact congrArg Except.error (Failure.cleared_of_isClear hs)
  | ok holds =>
    have hstart := startElement_ifTag htag hs hholds
    cases holds with
    | true =>
      rw [h.carryOut_of_start hs hs hstart, State.whenHolds, hholds]
      -- with no condition counted, the end of the element has nothing to count down
      have hend {t : State} (ht : t.frame = s.frame) :
          (endElement env head body t).mapError Failure.cleared = .ok t := by
        rw [endElement, htag]
        exact congrArg Except.ok (State.endCondition_of_isClear (isClear_of_frame ht hs))
      rw [h.bind_congr_of_frame hend]
      exact bind_pure _
    | false =>
      have hskip : startElement env head s = .ok (s.skip head.tag) := by rw [hstart, htag]; rfl
      rw [h.carryOut_of_outermost hs (by rw [htag]; rfl) (by rw [htag]; rfl) hskip,
        State.whenHolds, hholds]
      rfl

/-- A `Gedcom` block on an empty text is skipped, and any other one is carried
out between a switch and its restoration. -/
theorem agrees_gedcom (h : Realizes body meaning) {head : Head} {s : State}
    (htag : head.tag = .gedcom) (hs : s.suppression.isClear = true) :
    (carryOut env head body s).mapError Failure.cleared =
      s.withSubject env (head.attributes.resolve s.scope) meaning := by
  obtain ⟨tag, name, attributes, location⟩ := head
  cases htag
  have hzero : ¬ 0 < s.suppression.switches :=
    Suppression.not_counter_pos hs .gedcom
  have hstart : startElement env ⟨.gedcom, name, attributes, location⟩ s =
      .ok (s.beginSwitch env (attributes.resolve s.scope)) := by
    rw [startElement]
  rw [State.beginSwitch, if_neg hzero] at hstart
  unfold State.withSubject
  dsimp only at hstart ⊢
  generalize targetText env s _ = text at hstart ⊢
  split at hstart
  next hempty =>
    rw [h.carryOut_of_outermost hs rfl rfl hstart, if_pos hempty]
    rfl
  next hempty =>
    have hclear : (s.switchTo text).suppression.isClear = true := by
      rw [State.suppression_switchTo, hs]
    rw [h.carryOut_of_start hs hclear hstart, if_neg hempty]
    refine h.bind_congr_of_frame ?_
    intro t ht
    exact congrArg Except.ok (State.endSwitch_of_frame hs rfl ht)

/-- A footnote is skipped unless the record that it cites may be seen. -/
theorem agrees_footnote (h : Realizes body meaning) {head : Head} {s : State}
    (htag : head.tag = .footnote) (hs : s.suppression.isClear = true) :
    (carryOut env head body s).mapError Failure.cleared =
      s.withinFootnote env (head.attributes.resolve s.scope) meaning := by
  obtain ⟨tag, name, attributes, location⟩ := head
  cases htag
  have hzero : ¬ 0 < s.suppression.footnotes :=
    Suppression.not_counter_pos hs .footnote
  have hstart : startElement env ⟨.footnote, name, attributes, location⟩ s =
      .ok (s.beginFootnote env (attributes.resolve s.scope)) := by
    rw [startElement]
  rw [State.beginFootnote, if_neg hzero] at hstart
  unfold State.withinFootnote
  generalize (Leveled.citedXref? s.active.text).bind env.store.record? = cited at hstart ⊢
  cases cited with
  | none =>
    rw [h.carryOut_of_outermost hs rfl rfl hstart]
    rfl
  | some record =>
    dsimp only at hstart ⊢
    split at hstart
    next hshown =>
      generalize (attributes.resolve s.scope).getD "style" "" = style at hstart ⊢
      have hclear : (s.openFootnote style).suppression.isClear = true := hs
      rw [h.carryOut_of_start hs hclear hstart, if_pos hshown]
      rfl
    next hshown =>
      rw [h.carryOut_of_outermost hs rfl rfl hstart, if_neg hshown]
      rfl

/-! ## Repeated blocks -/

/-- When a repeated block has kept its items at its start, it is carried out for
each of them. -/
theorem carryOut_of_collect (h : Realizes body meaning) {head : Head} {items : Items}
    {s t : State} (hs : s.suppression.isClear = true) (ht : t.suppression.isClear = true)
    (hr : head.tag.isRepeat = true)
    (hstart : startElement env head s = .ok (t.enterRepeat.keepItems items)) :
    (carryOut env head body s).mapError Failure.cleared = t.forEach env items meaning := by
  have hskips : (t.enterRepeat.keepItems items).suppression.isClear = false :=
    Suppression.isClear_eq_false.mpr (Or.inr (Or.inr (Or.inl (Nat.succ_pos _))))
  have hallows : (t.enterRepeat.keepItems items).suppression.allows head.tag = true := by
    have hcounters : (t.enterRepeat.keepItems items).suppression = { repeats := 1 } := by
      rw [State.keepItems, State.enterRepeat, Suppression.isClear_iff.mp ht]
    rw [hcounters, Suppression.allows, hr]
    rfl
  have hend : endElement env head body (t.enterRepeat.keepItems items) =
      (t.enterRepeat.keepItems items).endRepeat env body := by
    obtain ⟨tag, name, attributes, location⟩ := head
    cases tag <;> first | rfl | cases hr
  rw [carryOut, enter_of_allows (Suppression.allows_of_isClear hs _), hstart, Outcome.ok_bind,
    h.inert hskips, Outcome.ok_bind, leave_of_allows hallows, hend,
    State.endRepeat_keepItems env body items ht, h.forEach_agrees items ht]

theorem agrees_repeatTag (h : Realizes body meaning) {head : Head} {s : State}
    (htag : head.tag = .repeatTag) (hs : s.suppression.isClear = true) :
    (carryOut env head body s).mapError Failure.cleared =
      s.forEachPart env (head.attributes.resolve s.scope) meaning := by
  obtain ⟨tag, name, attributes, location⟩ := head
  cases htag
  have hstart : startElement env ⟨.repeatTag, name, attributes, location⟩ s =
      .ok (s.beginParts env (attributes.resolve s.scope)) := by
    rw [startElement]
  rw [State.beginParts, if_pos (State.repeats_enterRepeat hs)] at hstart
  dsimp only at hstart ⊢
  split at hstart
  next hpath =>
    rw [State.forEachPart, hpath]
    exact h.carryOut_of_collect hs hs rfl hstart
  next hpath =>
    have hclear : (s.addText (Text.trim s.active.description)).suppression.isClear = true :=
      isClear_of_frame (State.frame_addText s _) hs
    rw [State.addText_enterRepeat] at hstart
    rw [State.forEachPart, hpath]
    exact h.carryOut_of_collect hs hclear rfl hstart
  next hempty hdescription =>
    rw [State.forEachPart_of_path hempty hdescription]
    exact h.carryOut_of_collect hs hs rfl hstart

theorem agrees_facts (h : Realizes body meaning) {head : Head} {s : State}
    (htag : head.tag = .facts) (hs : s.suppression.isClear = true) :
    (carryOut env head body s).mapError Failure.cleared =
      s.forEach env (.facts (factsOf env.store s.scope s.active (head.attributes.resolve s.scope)))
        meaning := by
  obtain ⟨tag, name, attributes, location⟩ := head
  cases htag
  refine h.carryOut_of_collect hs hs rfl ?_
  rw [startElement, State.beginFacts, if_pos (State.repeats_enterRepeat hs)]
  rfl

theorem agrees_list (h : Realizes body meaning) {head : Head} {s : State}
    (htag : head.tag = .list) (hs : s.suppression.isClear = true) :
    (carryOut env head body s).mapError Failure.cleared =
      s.forEachRecord env (head.attributes.resolve s.scope) meaning := by
  obtain ⟨tag, name, attributes, location⟩ := head
  cases htag
  have hstart : startElement env ⟨.list, name, attributes, location⟩ s =
      s.beginList env (attributes.resolve s.scope) := by
    rw [startElement]
  rw [State.beginList, if_pos (State.repeats_enterRepeat hs)] at hstart
  unfold State.forEachRecord
  dsimp only [State.enterRepeat] at hstart
  split at hstart
  next records hrecords =>
    rw [hrecords]
    exact h.carryOut_of_collect hs hs rfl hstart
  next e herror =>
    -- the failure has the block counted
    rw [herror, carryOut_of_start_error hs hstart]
    show Except.error (Failure.cleared ⟨e, s.enterRepeat⟩) = _
    have hcleared : Failure.cleared ⟨e, s.enterRepeat⟩ = Failure.cleared ⟨e, s⟩ := rfl
    rw [hcleared, Failure.cleared_of_isClear hs]

theorem agrees_relatives (h : Realizes body meaning) {head : Head} {s : State}
    (htag : head.tag = .relatives) (hs : s.suppression.isClear = true) :
    (carryOut env head body s).mapError Failure.cleared =
      s.forEach env
        (.relatives (relativesOf env.store s.scope s.active (head.attributes.resolve s.scope)))
        meaning := by
  obtain ⟨tag, name, attributes, location⟩ := head
  cases htag
  refine h.carryOut_of_collect hs hs rfl ?_
  rw [startElement, State.beginRelatives, if_pos (State.repeats_enterRepeat hs)]
  rfl

/-! ## The other elements -/

/-- An element that is not counted carries out its start, its content and its
end. -/
theorem agrees_of_not_isCounted (h : Realizes body meaning) {head : Head} {s : State}
    (hc : head.tag.isCounted = false) (hs : s.suppression.isClear = true) :
    (carryOut env head body s).mapError Failure.cleared = performElement env head meaning s := by
  rw [performElement_of_not_isCounted hc]
  cases hstart : startElement env head s with
  | error failure =>
    rw [carryOut_of_start_error hs hstart, Outcome.error_bind]
    refine congrArg Except.error (Failure.cleared_of_isClear ?_)
    rw [suppression_of_startElement_error hc hstart, hs]
  | ok t =>
    have ht : t.suppression.isClear = true := by
      rw [suppression_startElement hc hstart, hs]
    rw [h.carryOut_of_start hs ht hstart, Outcome.ok_bind]
    -- the end sees the counters of the start, by the frame
    refine h.bind_congr_of_frame ?_
    intro u hu
    have hclear : u.suppression.isClear = true := isClear_of_frame hu ht
    rw [endElement_of_not_isCounted body hc]
    cases hend : endElement env head .ok u with
    | ok v => rfl
    | error failure =>
      refine congrArg Except.error (Failure.cleared_of_isClear ?_)
      rw [suppression_of_endElement_error hc hend, hclear]

/-- **An element realizes its meaning**, provided that its content does. -/
theorem carryOut (env : Environment) (h : Realizes body meaning) (head : Head) :
    Realizes (carryOut env head body) (performElement env head meaning) where
  inert hs := carryOut_inert hs fun t ht => h.inert ht
  keeps := keepsFrame_performElement h.keeps
  agrees {s} hs := by
    cases hc : head.tag.isCounted with
    | false => exact h.agrees_of_not_isCounted hc hs
    | true =>
      unfold performElement
      cases htag : head.tag with
      | ifTag => exact h.agrees_ifTag htag hs
      | gedcom => exact h.agrees_gedcom htag hs
      | footnote => exact h.agrees_footnote htag hs
      | repeatTag => exact h.agrees_repeatTag htag hs
      | facts => exact h.agrees_facts htag hs
      | list => exact h.agrees_list htag hs
      | relatives => exact h.agrees_relatives htag hs
      | _ =>
        rw [htag] at hc
        cases hc

end Realizes

/-! ## Templates -/

/-- **The walk realizes the meaning of the template.** -/
theorem realizes_walkAll (env : Environment) (nodes : List Node) :
    Realizes (walkAll env nodes) (performAll env nodes) where
  inert hs := walkAll_inert env nodes hs
  keeps := performAll_keepsFrame env nodes
  agrees {s} hs := by
    induction nodes using Node.forest generalizing s with
    | nil =>
      rw [walkAll_nil, performAll_nil]
      rfl
    | text text rest ih =>
      have hprints : s.printsText = s.prints := by
        rw [State.printsText, hs, Bool.and_true]
      rw [walkAll_text, performAll_text, hprints]
      refine ih ?_
      split
      · exact isClear_of_frame (State.frame_addText s text) hs
      · exact hs
    | element head children rest ihChildren ihRest =>
      -- the content is realized, hence so is the element
      have hchildren : Realizes (walkAll env children) (performAll env children) :=
        ⟨walkAll_inert env children, ihChildren, performAll_keepsFrame env children⟩
      have helement := hchildren.carryOut env head
      rw [walkAll_element, performAll_element, ← helement.agrees hs]
      cases hcarried : Report.carryOut env head (walkAll env children) s with
      | error failure => rfl
      | ok t => exact ihRest (helement.isClear hcarried hs)

/-! ## Results -/

/-- **The walk agrees with the meaning of the template.** From a state in which
nothing is skipped, the walk ends in the same state as the structured meaning,
or fails with the same error; and the structured meaning has no use for
counters or collected items. -/
theorem walkAll_agrees (env : Environment) (nodes : List Node) {s : State}
    (h : s.suppression = {}) :
    (walkAll env nodes s).mapError Failure.error =
        (performAll env nodes s).mapError Failure.error ∧
      IgnoresCounters (performAll env nodes) := by
  refine ⟨?_, performAll_ignoresCounters env nodes⟩
  rw [← (realizes_walkAll env nodes).agrees (Suppression.isClear_iff.mpr h)]
  cases walkAll env nodes s <;> rfl

/-- A template that stores the last name of the active person. -/
def lastName : List Node :=
  [.element ⟨.repeatTag, "RepeatTag", ⟨[("tag", "NAME")]⟩, {}⟩
    [.element ⟨.gedcom, "Gedcom", ⟨[("id", "SURN")]⟩, {}⟩ [.text "surname"],
      .element ⟨.setVar, "SetVar", ⟨[("name", "name"), ("value", "@NAME")]⟩, {}⟩ []]]

/-- A state in which a person with two names is active. -/
def personActive : State :=
  { active := { text := "0 @I1@ INDI\n1 NAME Ann\n1 NAME Eve" } }

theorem walkAll_agrees_of_personActive :
    (walkAll {} lastName personActive).mapError Failure.error =
        (performAll {} lastName personActive).mapError Failure.error ∧
      IgnoresCounters (performAll {} lastName) :=
  walkAll_agrees {} lastName rfl

/-- **Every walk leaves the frame as it found it**: the active text with its fact
and generation, the four counters, and all stacks. -/
theorem walkAll_frame (env : Environment) (nodes : List Node) {s t : State}
    (h : walkAll env nodes s = .ok t) : t.frame = s.frame := by
  cases hs : s.suppression.isClear with
  | true => exact (realizes_walkAll env nodes).frame_eq h hs
  | false =>
    rw [walkAll_inert env nodes hs] at h
    cases h
    rfl

theorem walkAll_frame_of_personActive :
    ∃ t, walkAll {} lastName personActive = .ok t ∧ t.frame = personActive.frame := by
  have hok : (walkAll {} lastName personActive).isOk = true := by decide +kernel
  cases ht : walkAll {} lastName personActive with
  | ok t => exact ⟨t, rfl, walkAll_frame {} lastName ht⟩
  | error failure =>
    rw [ht] at hok
    cases hok

end Lineage.Report
