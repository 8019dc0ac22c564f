import Lineage.Proofs.Store.Privacy
import Lineage.Proofs.Walk.Basic

/-!
# Hidden records do not reach the report

Two runs of a template with stores that a reader cannot tell apart are the same
run, as long as the template looks at records through the active text, by their
names or as the object of a citation. Facts, lists, relatives and pictures go
through records in ways of their own and are left out here.

The argument has no relation between states in it: as every look at a record
gives the same answer with both stores, every handler does the same, and the
two walks are equal as functions.

> `walkAll_withStore`: for templates of discreet elements, indistinct stores
> give the same walk.
-/

namespace Lineage

open Template (Head Node Tag)

/-! ## Templates of certain elements -/

/-- Whether elements with the tag look at records only through the active text,
by their names, or as the object of a citation. -/
def Template.Tag.isDiscreet : Tag → Bool
  | facts | list | relatives | image | highlightedImage => false
  | _ => true

namespace Template.Node

mutual

/-- Whether all elements at or below a node have tags of a certain kind. -/
def usesOnly (p : Tag → Bool) : Node → Bool
  | text _ => true
  | element head children => p head.tag && usesOnlyIn p children

/-- Whether all elements in a list of nodes have tags of a certain kind. -/
def usesOnlyIn (p : Tag → Bool) : List Node → Bool
  | [] => true
  | node :: rest => usesOnly p node && usesOnlyIn p rest

end

theorem usesOnlyIn_text {p : Tag → Bool} {s : String} {rest : List Node}
    (h : usesOnlyIn p (.text s :: rest) = true) : usesOnlyIn p rest = true := by
  rwa [usesOnlyIn, usesOnly, Bool.true_and] at h

theorem usesOnlyIn_element {p : Tag → Bool} {head : Head} {children rest : List Node}
    (h : usesOnlyIn p (.element head children :: rest) = true) :
    p head.tag = true ∧ usesOnlyIn p children = true ∧ usesOnlyIn p rest = true := by
  rw [usesOnlyIn, usesOnly, Bool.and_eq_true, Bool.and_eq_true] at h
  obtain ⟨⟨htag, hchildren⟩, hrest⟩ := h
  exact ⟨htag, hchildren, hrest⟩

end Template.Node

namespace Report

namespace Environment

/-- The same surroundings with another store. -/
def withStore (env : Environment) (store : Store) : Environment :=
  { env with store }

variable (env : Environment) (store : Store)

@[simp] theorem store_withStore : (env.withStore store).store = store :=
  rfl

@[simp] theorem localizer_withStore : (env.withStore store).localizer = env.localizer :=
  rfl

@[simp] theorem localize_withStore (value : String) :
    (env.withStore store).localize value = env.localize value :=
  rfl

@[simp] theorem truncated_withStore (attrs : Attributes) (text : String) :
    (env.withStore store).truncated attrs text = env.truncated attrs text :=
  rfl

end Environment

variable {env : Environment} {store : Store}

/-! ## Every look at a record gives the same answer

The records themselves may differ, but only in what nobody asks for: all that
is read of a hidden record is in `Record.Indistinct`. -/

theorem visibleText?_withStore (h : env.store.Matches Record.Indistinct store) :
    (env.withStore store).visibleText? = env.visibleText? := by
  funext xref
  show ((store.record? xref).map store.privatize).filter _ = _
  rw [h.privatize?_eq, Environment.visibleText?]

theorem followPath_withStore (h : env.store.Matches Record.Indistinct store) (scope : Scope)
    (text : String) (steps : List Step) :
    followPath (env.withStore store) scope text steps = followPath env scope text steps := by
  induction steps generalizing text with
  | nil => rw [followPath, followPath]
  | cons step rest ih =>
    cases step with
    | heldBy name => rw [followPath, followPath, visibleText?_withStore h, ih]
    | linked tag =>
      rw [followPath, followPath, visibleText?_withStore h]
      split
      · exact ih _
      · rfl
    | part tag =>
      rw [followPath, followPath]
      exact ih _

theorem targetText_withStore (h : env.store.Matches Record.Indistinct store) (s : State)
    (target : Target) :
    targetText (env.withStore store) s target = targetText env s target := by
  cases target with
  | path steps => exact followPath_withStore h s.scope s.active.text steps
  | literal xref =>
    rw [targetText, targetText, visibleText?_withStore h, followPath_withStore h]
  | active => exact followPath_withStore h s.scope s.active.text _
  | heldBy name => rw [targetText, targetText, visibleText?_withStore h] <;> nofun
  | linked tag => rw [targetText, targetText, visibleText?_withStore h] <;> nofun

theorem value_withStore (h : env.store.Matches Record.Indistinct store) :
    (env.withStore store).value = env.value := by
  funext path level text
  show Leveled.value path level text store.noteText? = _
  rw [h.noteText?_eq, Environment.value]

theorem conditionValue_withStore (h : env.store.Matches Record.Indistinct store)
    (active : Active) :
    conditionValue (env.withStore store) active = conditionValue env active := by
  funext reference
  unfold conditionValue
  rw [value_withStore h]

theorem conditionHolds_withStore (h : env.store.Matches Record.Indistinct store) (s : State)
    (condition : String) :
    conditionHolds (env.withStore store) s condition = conditionHolds env s condition := by
  unfold conditionHolds
  rw [conditionValue_withStore h]

theorem linkVisible_withStore (h : env.store.Matches Record.Indistinct store) :
    linkVisible store = linkVisible env.store := by
  funext text
  unfold linkVisible
  cases Leveled.leadingXref? text with
  | none => rfl
  | some xref =>
    obtain ⟨hnone, hnone'⟩ | ⟨r, r', hr, hr', hrel⟩ := h.record?_cases xref
    · rw [Option.bind_some, Option.bind_some, hnone, hnone']
    · rw [Option.bind_some, Option.bind_some, hr, hr']
      exact h.canShow_eq hrel

theorem partsAt_withStore (h : env.store.Matches Record.Indistinct store) (active : Active)
    (path : String) : partsAt store active path = partsAt env.store active path := by
  unfold partsAt
  rw [linkVisible_withStore h]

/-! ## Handlers -/

namespace State

theorem beginCondition_withStore (h : env.store.Matches Record.Indistinct store)
    (attrs : Attributes) (location : Location) (s : State) :
    s.beginCondition (env.withStore store) attrs location =
      s.beginCondition env attrs location := by
  unfold beginCondition
  rw [conditionHolds_withStore h]

theorem beginSwitch_withStore (h : env.store.Matches Record.Indistinct store)
    (attrs : Attributes) (s : State) :
    s.beginSwitch (env.withStore store) attrs = s.beginSwitch env attrs := by
  unfold beginSwitch
  simp only [targetText_withStore h]

theorem beginFootnote_withStore (h : env.store.Matches Record.Indistinct store)
    (attrs : Attributes) (s : State) :
    s.beginFootnote (env.withStore store) attrs = s.beginFootnote env attrs := by
  unfold beginFootnote
  cases Leveled.citedXref? s.active.text with
  | none => rfl
  | some xref =>
    obtain ⟨hnone, hnone'⟩ | ⟨r, r', hr, hr', hrel⟩ := h.record?_cases xref
    · simp only [Environment.store_withStore, Option.bind_some, hnone, hnone']
    · simp only [Environment.store_withStore, Option.bind_some, hr, hr', h.canShow_eq hrel]

theorem beginParts_withStore (h : env.store.Matches Record.Indistinct store)
    (attrs : Attributes) (s : State) :
    s.beginParts (env.withStore store) attrs = s.beginParts env attrs := by
  unfold beginParts
  simp only [Environment.store_withStore, partsAt_withStore h]

theorem printName_withStore (h : env.store.Matches Record.Indistinct store)
    (attrs : Attributes) (s : State) :
    s.printName (env.withStore store) attrs = s.printName env attrs := by
  unfold printName
  dsimp only
  cases (Target.ofAttribute (attrs.get? "id")).xref? s.active.text s.scope with
  | none => rfl
  | some xref =>
    obtain ⟨hnone, hnone'⟩ | ⟨r, r', hr, hr', hrel⟩ := h.record?_cases xref
    · simp only [Environment.store_withStore, Option.bind_some, hnone, hnone']
    · simp only [Environment.store_withStore, Environment.localizer_withStore,
        Environment.truncated_withStore, Option.bind_some, hr, hr', h.canShowName_eq hrel]
      by_cases hshown : env.store.canShowName r = true
      · rw [hrel.eq_of_allows hshown]
      · simp only [hshown, Bool.not_false, if_true]

theorem printValue_withStore (h : env.store.Matches Record.Indistinct store)
    (attrs : Attributes) (s : State) :
    s.printValue (env.withStore store) attrs = s.printValue env attrs := by
  unfold printValue
  rw [value_withStore h]
  rfl

theorem printVariable_withStore (attrs : Attributes) (s : State) :
    s.printVariable (env.withStore store) attrs = s.printVariable env attrs := by
  unfold printVariable
  simp only [Environment.localizer_withStore, Environment.localize_withStore]

theorem assign_withStore (attrs : Attributes) (location : Location) (s : State) :
    s.assign (env.withStore store) attrs location = s.assign env attrs location := by
  unfold assign
  simp only [Environment.localize_withStore]

end State

/-! ## Elements -/

theorem startElement_withStore (h : env.store.Matches Record.Indistinct store) {head : Head}
    (hd : head.tag.isDiscreet = true) (s : State) :
    startElement (env.withStore store) head s = startElement env head s := by
  obtain ⟨tag, name, attributes, location⟩ := head
  cases tag with
  | facts | list | relatives | image | highlightedImage => cases hd
  | gedcom => rw [startElement, startElement, State.beginSwitch_withStore h]
  | ifTag => rw [startElement, startElement, State.beginCondition_withStore h]
  | footnote => rw [startElement, startElement, State.beginFootnote_withStore h]
  | repeatTag => rw [startElement, startElement, State.beginParts_withStore h]
  | getPersonName => rw [startElement, startElement, State.printName_withStore h]
  | gedcomValue => rw [startElement, startElement, State.printValue_withStore h]
  | var => rw [startElement, startElement, State.printVariable_withStore]
  | setVar => rw [startElement, startElement, State.assign_withStore]
  | doc | now | generation => rfl
  | _ => rw [startElement, startElement]

/-- How often a body is carried out does not depend on the records. -/
theorem replayItems_withStore (h : env.store.Matches Record.Indistinct store)
    (body : State → Outcome) (s : State) (items : Items) :
    State.replayItems (env.withStore store) body s items = State.replayItems env body s items := by
  have hreplay : State.replay (env.withStore store) = State.replay env := rfl
  have hprivatize := Store.privatize_congr h.access
  have hshow := Store.canShow_congr h.access
  -- collected records may come from anywhere, so only the access level is used
  cases items with
  | parts texts => rw [State.replayItems, State.replayItems, hreplay]
  | facts facts => rw [State.replayItems, State.replayItems, hreplay]
  | records records =>
    have hrecord : State.replayRecord (env.withStore store) body = State.replayRecord env body := by
      funext s record
      unfold State.replayRecord
      simp only [Environment.store_withStore, hprivatize, hshow, hreplay]
    rw [State.replayItems, State.replayItems, hrecord]
  | relatives relatives =>
    have hrelative : State.activateRelative store = State.activateRelative env.store := by
      funext s relative
      unfold State.activateRelative
      rw [hprivatize]
    rw [State.replayItems, State.replayItems, hreplay, Environment.store_withStore, hrelative]

theorem endElement_withStore (h : env.store.Matches Record.Indistinct store) (head : Head)
    (body : State → Outcome) (s : State) :
    endElement (env.withStore store) head body s = endElement env head body s := by
  have hrepeat : s.endRepeat (env.withStore store) body = s.endRepeat env body := by
    unfold State.endRepeat
    simp only [replayItems_withStore h]
  obtain ⟨tag, name, attributes, location⟩ := head
  cases tag with
  | repeatTag | facts | list | relatives => exact hrepeat
  | _ => rfl

theorem carryOut_withStore (h : env.store.Matches Record.Indistinct store) {head : Head}
    (hd : head.tag.isDiscreet = true) (body : State → Outcome) :
    carryOut (env.withStore store) head body = carryOut env head body := by
  have henter : enter (env.withStore store) head = enter env head := by
    funext s
    unfold enter
    rw [startElement_withStore h hd]
  have hleave : leave (env.withStore store) head body = leave env head body := by
    funext s
    unfold leave
    rw [endElement_withStore h]
  funext s
  rw [carryOut, carryOut, henter, hleave]

/-- **Indistinct stores give the same walk.** -/
theorem walkAll_withStore (h : env.store.Matches Record.Indistinct store) {nodes : List Node}
    (hd : Node.usesOnlyIn Tag.isDiscreet nodes = true) :
    walkAll (env.withStore store) nodes = walkAll env nodes := by
  induction nodes using Node.forest with
  | nil =>
    funext s
    rw [walkAll_nil, walkAll_nil]
  | text text rest ih =>
    funext s
    rw [walkAll_text, walkAll_text, ih (Node.usesOnlyIn_text hd)]
  | element head children rest ihChildren ihRest =>
    obtain ⟨htag, hchildren, hrest⟩ := Node.usesOnlyIn_element hd
    funext s
    rw [walkAll_element, walkAll_element, ihChildren hchildren, ihRest hrest,
      carryOut_withStore h htag]

/-! ## Runs -/

/-- **The text of hidden records does not reach the report**, except for what
remains of them: with stores that differ in nothing else, a template has the
same run. -/
theorem run_withStore (h : env.store.Matches Record.Indistinct store) {template : List Node}
    (hd : Node.usesOnlyIn Tag.isDiscreet template = true) (scope : Scope) (output : Output) :
    run (env.withStore store) template scope output = run env template scope output := by
  rw [run, run, walkAll_withStore h hd]

/-- A person whom visitors may not see. -/
def hiddenPerson (name : String) : Store :=
  { records := [⟨"I1", .individual, "0 @I1@ INDI\n1 NAME " ++ name ++ "\n1 RESN privacy"⟩] }

/-- A template that stores the name of the person. -/
def nameOfPerson : List Node :=
  [.element ⟨.gedcom, "Gedcom", ⟨[("id", "I1")]⟩, {}⟩
    [.element ⟨.setVar, "SetVar", ⟨[("name", "name"), ("value", "@NAME")]⟩, {}⟩ []]]

/-- Visitors cannot tell hidden people apart by their names. -/
theorem run_withStore_of_hiddenPerson :
    (hiddenPerson "Ann").Matches Record.Indistinct (hiddenPerson "Eve") ∧
      run (Environment.withStore { store := hiddenPerson "Ann" } (hiddenPerson "Eve"))
          nameOfPerson {} {} =
        run { store := hiddenPerson "Ann" } nameOfPerson {} {} := by
  have hmatches : (hiddenPerson "Ann").Matches Record.Indistinct (hiddenPerson "Eve") := by
    refine ⟨rfl, .cons ⟨⟨rfl, rfl, Or.inr ⟨?_, ?_⟩⟩, ?_, nofun⟩ .nil⟩
    · decide +kernel
    · decide +kernel
    · decide +kernel
  exact ⟨hmatches, run_withStore hmatches rfl {} {}⟩

/-! ## The header line of a hidden record -/

/-- A source, and a note on which nothing but the header line is left for
visitors. -/
def hiddenNote (text : String) : Store :=
  { records :=
      [⟨"S1", .source, "0 @S1@ SOUR"⟩,
        ⟨"N1", .note, "0 @N1@ NOTE " ++ text ++ "\n1 RESN privacy"⟩] }

/-- A template that finds out whether the note cites something. -/
def citationOfNote : List Node :=
  [.element ⟨.gedcom, "Gedcom", ⟨[("id", "N1")]⟩, {}⟩
    [.element ⟨.footnote, "Footnote", {}, {}⟩
      [.element ⟨.setVar, "SetVar", ⟨[("name", "cites"), ("value", "yes")]⟩, {}⟩ []]]]

/-- It is not enough that hidden records have the same cross-reference and
kind: what stands on the header line of a hidden note is read. -/
theorem run_ne_of_header :
    (hiddenNote "see @S1@").Matches Record.Alike (hiddenNote "see below") ∧
      run { store := hiddenNote "see @S1@" } citationOfNote {} {} ≠
        run { store := hiddenNote "see below" } citationOfNote {} {} := by
  have hcites : (run { store := hiddenNote "see @S1@" } citationOfNote {} {}).toOption.map
      (fun s => s.scope.contains "cites") = some true := by decide +kernel
  have hsilent : (run { store := hiddenNote "see below" } citationOfNote {} {}).toOption.map
      (fun s => s.scope.contains "cites") = some false := by decide +kernel
  constructor
  · refine ⟨rfl, .cons ⟨rfl, rfl, Or.inl rfl⟩ (.cons ⟨rfl, rfl, Or.inr ⟨?_, ?_⟩⟩ .nil)⟩
    · decide +kernel
    · decide +kernel
  · intro h
    rw [h, hsilent] at hcites
    cases hcites

end Report

end Lineage
