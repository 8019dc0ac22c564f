import Lineage.Proofs.Walk.Refinement
import Lineage.Proofs.Walk.Tallies

/-!
# The totals of a list

A list sets two totals when it ends: the number of its records, and while its body is
carried out for them, the number of those that may not be shown and are passed over.
Both stay in the state for a `ListTotal` behind the list. They are single fields: lists
and relatives within the body write to the same ones, and nothing restores them, though
the active text is restored. So the totals are those of the list as long as there is
no list and no relatives in it:

> `keeps_performAll`: other elements, repeated or not, leave the totals alone.
> `totals_of_list`: behind a list the totals are its own, and a `ListTotal` prints them.

With a list in a list they are wrong (`not_totals_of_list_nested`).
-/

namespace Lineage.Report

open Template (Head Node Tag)

variable {env : Environment} {attrs : Attributes} {head : Head} {body : State → Outcome}

/-- The size of a list, and how many of its records may not be shown. -/
def Tallies.totals (t : Tallies) : Nat × Nat :=
  (t.total, t.hidden)

/-! ## Elements that leave the totals alone -/

namespace Keeps

variable {α : Type} {view : Tallies → α}

theorem whenHolds {location : Location} (h : Keeps view body) :
    Keeps view (State.whenHolds env attrs location body) := by
  intro s
  unfold State.whenHolds
  split
  · exact h s
  · rfl
  · rfl

theorem withSubject (h : Keeps view body) : Keeps view (State.withSubject env attrs body) := by
  intro s
  unfold State.withSubject
  dsimp only
  split
  · rfl
  · have hrestore : Keeps view fun done =>
        .ok { done with active := s.active, savedRecords := s.savedRecords } := fun _ => rfl
    rw [← s.tallies_switchTo]
    exact h.bind hrestore _

theorem withinFootnote (h : Keeps view body) :
    Keeps view (State.withinFootnote env attrs body) := by
  intro s
  unfold State.withinFootnote
  split
  · rfl
  · split
    · have hend : Keeps view fun done => .ok done.endFootnote := fun done =>
        congrArg view done.tallies_endFootnote
      exact h.bind hend _
    · rfl

/-- A body that is carried out for an item only goes one level deeper and comes back. -/
theorem replay_totals (h : Keeps Tallies.totals body) :
    Keeps Tallies.totals (State.replay env body) := by
  intro s
  have hbody := h { s with replayDepth := s.replayDepth + 1 }
  unfold State.replay
  split
  · rfl
  · split
    next t ht =>
      rw [ht] at hbody
      exact hbody
    next failure hfailure =>
      rw [hfailure] at hbody
      exact hbody

/-- A repeated block leaves the totals as carrying out its items does. -/
theorem forEach {items : Items} (h : Keeps view fun s => State.replayItems env body s items) :
    Keeps view (State.forEach env items body) := by
  intro s
  have hrestore : Keeps view fun done => .ok { done with active := s.active } := fun _ => rfl
  exact h.bind hrestore s

theorem forEach_parts (h : Keeps Tallies.totals body) (texts : List String) :
    Keeps Tallies.totals (State.forEach env (.parts texts) body) :=
  forEach (foldlM (fun text s => h.replay_totals (s.activate text)) texts)

theorem forEach_facts (h : Keeps Tallies.totals body) (facts : List FactItem) :
    Keeps Tallies.totals (State.forEach env (.facts facts) body) :=
  forEach (foldlM (fun fact s => h.replay_totals (s.activateFact fact)) facts)

theorem forEachPart (h : Keeps Tallies.totals body) :
    Keeps Tallies.totals (State.forEachPart env attrs body) := by
  intro s
  unfold State.forEachPart
  split
  · exact h.forEach_parts _ s
  · refine (h.forEach_parts _ _).trans ?_
    rw [State.tallies_addText]
  · exact h.forEach_parts _ s

/-- **Only lists and relatives change the totals**: any other element leaves them as
its content does. -/
theorem performElement (h : Keeps Tallies.totals body) (hlist : head.tag ≠ .list)
    (hrelatives : head.tag ≠ .relatives) :
    Keeps Tallies.totals (performElement env head body) := by
  intro s
  cases hc : head.tag.isCounted with
  | false =>
    have hr : head.tag.isRepeat = false := by
      revert hc
      cases head.tag <;> decide
    have hstart : Keeps Tallies.totals (startElement env head) := fun s =>
      congrArg Tallies.totals (tallies_startElement env head s)
    have hend : Keeps Tallies.totals (endElement env head .ok) := fun s =>
      congrArg Tallies.totals (tallies_endElement env hr .ok s)
    rw [performElement_of_not_isCounted hc]
    exact hstart.bind (h.bind hend) s
  | true =>
    obtain ⟨tag, name, attributes, location⟩ := head
    unfold Report.performElement
    cases tag with
    | ifTag => exact h.whenHolds s
    | gedcom => exact h.withSubject s
    | footnote => exact h.withinFootnote s
    | repeatTag => exact h.forEachPart s
    | facts => exact h.forEach_facts _ s
    | list => exact absurd rfl hlist
    | relatives => exact absurd rfl hrelatives
    | _ => cases hc

end Keeps

/-- Where an element with a tag is looked for in vain, there is none. -/
theorem findIn?_element_eq_none {tag : Tag} {children rest : List Node}
    (h : Node.findIn? tag (.element head children :: rest) = none) :
    head.tag ≠ tag ∧ Node.findIn? tag children = none ∧ Node.findIn? tag rest = none := by
  rw [Node.findIn?, Node.find?] at h
  split at h
  next found hfound => cases h
  next hnone =>
    by_cases htag : head.tag = tag
    · rw [if_pos htag] at hnone
      cases hnone
    · rw [if_neg htag] at hnone
      exact ⟨htag, hnone, h⟩

/-- **A template without lists and relatives leaves the totals as they were.** -/
theorem keeps_performAll {nodes : List Node} (hlist : Node.findIn? .list nodes = none)
    (hrelatives : Node.findIn? .relatives nodes = none) :
    Keeps Tallies.totals (performAll env nodes) := by
  induction nodes using Node.forest with
  | nil =>
    intro s
    rw [performAll_nil]
    rfl
  | text text rest ih =>
    intro s
    rw [performAll_text]
    refine (ih hlist hrelatives _).trans ?_
    split
    · rw [State.tallies_addText]
    · rfl
  | element head children rest ihChildren ihRest =>
    intro s
    rw [performAll_element]
    obtain ⟨hnotList, hlistChildren, hlistRest⟩ := findIn?_element_eq_none hlist
    obtain ⟨hnotRelatives, hrelativesChildren, hrelativesRest⟩ :=
      findIn?_element_eq_none hrelatives
    have hchildren := ihChildren hlistChildren hrelativesChildren
    exact (hchildren.performElement hnotList hnotRelatives).bind
      (ihRest hlistRest hrelativesRest) s

/-! ## Lists -/

/-- What a `ListTotal` prints for some records: how many they are, after how many of
them are shown if not all are. -/
def totalText (store : Store) (records : List Record) : String :=
  let shown := records.countP store.canShow
  if shown = records.length then toString records.length
  else toString shown ++ " / " ++ toString records.length

/-- While a body is carried out for records, those that may not be shown are counted. -/
theorem totals_of_foldlM (h : Keeps Tallies.totals body) {records : List Record} {s t : State}
    (ht : records.foldlM (State.replayRecord env body) s = .ok t) :
    t.listTotal = s.listTotal ∧
      t.listPrivate = s.listPrivate + records.countP fun record => !env.store.canShow record := by
  induction records generalizing s with
  | nil =>
    cases ht
    exact ⟨rfl, rfl⟩
  | cons record rest ih =>
    rw [List.foldlM_cons] at ht
    obtain ⟨u, hu, ht⟩ := Outcome.bind_eq_ok.mp ht
    obtain ⟨htotal, hhidden⟩ := ih ht
    rw [List.countP_cons]
    unfold State.replayRecord at hu
    split at hu
    next hshown =>
      have hreplay : Keeps Tallies.totals (State.replay env body) := h.replay_totals
      have hkeeps := hreplay (s.activate (env.store.privatize record))
      rw [hu] at hkeeps
      have hsame : (u.listTotal, u.listPrivate) = (s.listTotal, s.listPrivate) := hkeeps
      obtain ⟨hsameTotal, hsameHidden⟩ := Prod.mk.inj hsame
      rw [hshown]
      exact ⟨htotal.trans hsameTotal, hhidden.trans (congrArg (· + _) hsameHidden)⟩
    next hnotShown =>
      -- the record is passed over, and the count goes up by one
      cases hu
      rw [Bool.eq_false_iff.mpr hnotShown]
      refine ⟨htotal, hhidden.trans ?_⟩
      show s.listPrivate + 1 + _ = s.listPrivate + (_ + 1)
      omega

/-- A `ListTotal` prints the totals, when they are those of some records. -/
theorem walk_listTotal {records : List Record} {s : State} (htag : head.tag = .listTotal)
    (hclear : s.suppression.isClear = true) (htotal : s.listTotal = records.length)
    (hhidden : s.listPrivate = records.countP fun record => !env.store.canShow record) :
    walk env (.element head []) s = .ok (s.addText (totalText env.store records)) := by
  have hlength := records.length_eq_countP_add_countP env.store.canShow
  have hcount : (records.countP fun record => !env.store.canShow record) =
      records.countP fun record => decide ¬ env.store.canShow record = true := by
    refine List.countP_congr ?_
    intro record _
    cases env.store.canShow record <;> rfl
  have hprint : s.printTotal = s.addText (totalText env.store records) := by
    unfold State.printTotal totalText
    dsimp only
    by_cases hall : s.listPrivate = 0
    · rw [if_pos hall, if_pos (by omega), htotal]
    · have hshown : records.length - s.listPrivate = records.countP env.store.canShow := by omega
      rw [if_neg hall, if_neg (by omega), htotal, hshown]
  obtain ⟨tag, name, attributes, location⟩ := head
  cases htag
  rw [walk_element, carryOut, enter_of_allows (Suppression.allows_of_isClear hclear _),
    startElement, Outcome.ok_bind, walkAll_nil, Outcome.ok_bind, hprint]
  unfold leave
  split <;> rfl

/-- **Behind a list the totals are its own**: the number of its records and the number
of those that may not be shown, whatever elements but lists and relatives are in it. A
`ListTotal` right behind the list prints these numbers. -/
theorem totals_of_list {children : List Node} {s t : State} (htag : head.tag = .list)
    (hclear : s.suppression.isClear = true) (hlist : Node.findIn? .list children = none)
    (hrelatives : Node.findIn? .relatives children = none)
    (ht : walk env (.element head children) s = .ok t) :
    ∃ records, recordsOf env.store s.scope s.active (head.attributes.resolve s.scope) =
        .ok records ∧
      t.listTotal = records.length ∧
      t.listPrivate = (records.countP fun record => !env.store.canShow record) ∧
      ∀ total : Head, total.tag = .listTotal →
        walk env (.element total []) t = .ok (t.addText (totalText env.store records)) := by
  have hrealizes := (realizes_walkAll env children).carryOut env head
  rw [walk_element] at ht
  have hcleared := hrealizes.isClear ht hclear
  have hmeaning := hrealizes.eq_ok ht hclear
  unfold performElement at hmeaning
  rw [htag] at hmeaning
  dsimp only at hmeaning
  unfold State.forEachRecord at hmeaning
  split at hmeaning
  next records hrecords =>
    obtain ⟨done, hdone, hrestored⟩ := Outcome.bind_eq_ok.mp hmeaning
    rw [State.replayItems] at hdone
    obtain ⟨htotal, hhidden⟩ := totals_of_foldlM (keeps_performAll hlist hrelatives) hdone
    cases hrestored
    have hstart : done.listPrivate = records.countP fun record => !env.store.canShow record := by
      rw [hhidden]
      exact Nat.zero_add _
    refine ⟨records, hrecords, htotal, hstart, ?_⟩
    intro total htotalTag
    exact walk_listTotal htotalTag hcleared htotal hstart
  next => cases hmeaning

/-- A person who may be seen, and one who may not. -/
def guardedPersons : Environment :=
  { store :=
      { records :=
          [⟨"I1", .individual, "0 @I1@ INDI\n1 NAME Ann\n1 NAME Eve"⟩,
            ⟨"I2", .individual, "0 @I2@ INDI\n1 NAME Sue\n1 RESN privacy"⟩] } }

/-- A list of persons with some content. -/
def personList : Head :=
  ⟨.list, "List", {}, {}⟩

/-- The names of the active person, one after the other. -/
def allNames : List Node :=
  [.element ⟨.repeatTag, "RepeatTag", ⟨[("tag", "NAME")]⟩, {}⟩ [.text "name"]]

/-- A list of families that says what it lists. -/
def familyList : List Node :=
  [.element ⟨.list, "List", ⟨[("list", "family")]⟩, {}⟩ [.text "family"]]

theorem totals_of_list_allNames :
    ∃ t, walk guardedPersons (.element personList allNames) {} = .ok t ∧ t.listTotal = 2 ∧
      t.listPrivate = 1 ∧
      ∀ total : Head, total.tag = .listTotal →
        walk guardedPersons (.element total []) t = .ok (t.addText "1 / 2") := by
  have hok : (walk guardedPersons (.element personList allNames) {}).isOk = true := by
    decide +kernel
  cases ht : walk guardedPersons (.element personList allNames) {} with
  | error failure =>
    rw [ht] at hok
    cases hok
  | ok t =>
    obtain ⟨records, hrecords, htotal, hhidden, hprint⟩ := totals_of_list rfl rfl rfl rfl ht
    have hpersons : recordsOf guardedPersons.store {} {} {} =
        .ok guardedPersons.store.records := by decide +kernel
    cases hpersons.symm.trans hrecords
    exact ⟨t, rfl, htotal, hhidden, hprint⟩

/-- With a list of families in it, a list of two persons, one of whom may not be seen,
has the total of the families and counts the hidden person among them. -/
theorem not_totals_of_list_nested :
    recordsOf guardedPersons.store {} {} {} = .ok guardedPersons.store.records ∧
      ∃ t, walk guardedPersons (.element personList familyList) {} = .ok t ∧
        t.listTotal = 0 ∧ t.listPrivate = 1 := by
  have htotals : (walk guardedPersons (.element personList familyList) {}).toOption.map
      (fun t => (t.listTotal, t.listPrivate)) = some (0, 1) := by
    decide +kernel
  refine ⟨by decide +kernel, ?_⟩
  cases ht : walk guardedPersons (.element personList familyList) {} with
  | error failure =>
    rw [ht] at htotals
    cases htotals
  | ok t =>
    rw [ht] at htotals
    obtain ⟨htotal, hhidden⟩ := Prod.mk.inj (Option.some.inj htotals)
    exact ⟨t, rfl, htotal, hhidden⟩

end Lineage.Report
