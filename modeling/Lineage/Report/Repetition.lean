import Lineage.Leveled.Link
import Lineage.Listing.Condition
import Lineage.Listing.Order
import Lineage.Report.Condition
import Lineage.Store.Filter
import Lineage.Template.Measure

/-!
# What a block is repeated for

A repeated block collects its items at its start: parts of the active text,
facts of the active record, the records of a list, or the relatives of a
person. Of nested blocks only the outermost one collects; the inner ones do so
when the block around them is carried out.
-/

namespace Lineage.Report

/-- An attribute that may refer to a variable, whose trimmed value then
counts. -/
def settingOf (scope : Scope) (attrs : Attributes) (name default : String) : String :=
  let value := attrs.getD name default
  match Substitution.firstVariable? value with
  | some variable_ => Text.trim ((scope.get? variable_).getD "")
  | none => value

/-! ## Parts of a text -/

/-- Narrows a text along the tags in front of the last one. Where a tag is not
there, a line of the whole text that names it after a cross-reference is taken,
one level up; empty tags are passed over. Gives the level of the last tag and
the narrowed text, or nothing when a part is missing. -/
def narrow? (whole : String) : Nat → String → List String → Option (Nat × String)
  | level, text, [] => some (level, text)
  | level, text, tag :: rest =>
    if tag.isEmpty then narrow? whole level text rest
    else
      let part := Leveled.block level (toString level ++ " " ++ tag) text 1
      if !part.isEmpty then narrow? whole (level + 1) part rest
      else
        let part := Leveled.block (level - 1) ("@ " ++ tag) whole 1
        if part.isEmpty then none else narrow? whole (level - 1 + 1) part rest

/-- Whether the record that a text links to may be seen; a text without such a
link may. -/
def linkVisible (store : Store) (text : String) : Bool :=
  match (Leveled.leadingXref? text).bind store.record? with
  | some record => store.canShow record
  | none => true

/-- All parts of the active text at a path of tags that may be seen. -/
def partsAt (store : Store) (active : Active) (path : String) : List String :=
  let tags := Text.split ':' path
  let last := tags.getLastD ""
  match narrow? active.text active.valueLevel active.text tags.dropLast with
  | none => []
  | some (level, text) =>
    let level := if last.isEmpty then level - 1 else level
    let tag := toString level ++ " " ++ last
    let count := Leveled.occurrences tag.toList 0 text.toList
    ((List.range' 1 count).map (Leveled.block level tag text)).filter fun part =>
      !part.isEmpty && linkVisible store part

/-! ## Facts -/

/-- A fact as an item: its tag and value as the first line gives them, the
value with its continuation lines. An event or attribute without a type of its
own has a blank one. -/
def FactItem.ofFact (fact : Fact) : FactItem :=
  let (tag, value) := (Leveled.firstTag? fact.text).getD (fact.tag, "")
  let type :=
    if tag = "EVEN" ∨ tag = "FACT" then (Leveled.firstType? fact.text).getD " " else ""
  ⟨fact.text, tag, value ++ Leveled.continuation 2 fact.text, type⟩

/-- The facts of the active record: those that may be seen and are not ignored,
by date, or those that a waiting change is about. -/
def factsOf (store : Store) (scope : Scope) (active : Active) (attrs : Attributes) :
    List FactItem :=
  match active.xref?.bind store.record? with
  | none => []
  | some record =>
    let facts :=
      if attrs.switch "diff" false then store.pendingFacts record
      else
        let ignored := (Text.split ',' (settingOf scope attrs "ignore" "")).map Text.trim
        let ignored := ignored.filter fun tag => !tag.isEmpty
        Fact.sortByDate ((store.visibleFacts record).filter (!ignored.contains ·.tag))
    facts.map FactItem.ofFact

/-! ## Lists -/

/-- Whether an attribute is one of the filters of a list: `filter` with a
number behind it. -/
def isFilterName (name : String) : Bool :=
  match Text.after? "filter" name with
  | some digits => !digits.isEmpty && digits.toList.all Chars.isDecimal
  | none => false

/-- Replaces the first reference in a filter, and its repeats, by what the
active text holds; `''` stands for nothing. -/
def fillReference (active : Active) (filter : String) : String :=
  match Substitution.firstReference? filter with
  | none => filter
  | some name =>
    let value :=
      match name with
      | "ID" => active.xref?.getD ""
      | "fact" => active.fact
      | "desc" => active.description
      | tag => (Leveled.firstValue? tag active.text).getD ""
    Text.replace ("@" ++ name) (if value.isEmpty then "''" else value) filter

/-- The filters of a list: those that the store answers, and the conditions
that are tested on the records it gives. Changes that wait are tested by
conditions only. -/
def filtersOf (scope : Scope) (active : Active) (kind : ListKind) (attrs : Attributes) :
    List ListFilter × List ListCondition :=
  let values := attrs.entries.filterMap fun (name, value) =>
    if isFilterName name && value != "" then some (Substitution.lenient scope value) else none
  let stored? (value : String) : Option ListFilter :=
    if kind = .pending then none else ListFilter.parse? value
  (values.filterMap stored?,
    (values.filter fun value => (stored? value).isNone).filterMap fun value =>
      ListCondition.parse? (fillReference active value) scope)

/-- The records of a list, in its order. -/
def recordsOf (store : Store) (scope : Scope) (active : Active) (attrs : Attributes) :
    Except RunError (List Record) :=
  let key := settingOf scope attrs "sortby" "NAME"
  let name := attrs.getD "list" "individual"
  match ListKind.ofName? name with
  | none => .error (.invalidList name)
  | some kind =>
    let (filters, conditions) := filtersOf scope active kind attrs
    .ok (sortRecords key (store.satisfying conditions (store.list kind filters)))

/-! ## Relatives -/

/-- The relatives of a person, in their order. Where the name of the group is
unknown it is the person alone. -/
def relativesOf (store : Store) (scope : Scope) (active : Active) (attrs : Attributes) :
    List Relative :=
  let key := settingOf scope attrs "sortby" "NAME"
  let group := settingOf scope attrs "group" "child-family"
  let anchor :=
    match attrs.nonEmpty? "id" with
    | some _ => settingOf scope attrs "id" ""
    | none => active.xref?.getD ""
  let most := attrs.whole "maxgen" (-1)
  let limit := if most < 0 then none else some most
  match Kin.ofName? group with
  | some kin => sortRelatives key (store.relatives anchor kin limit)
  | none => ((store.record? anchor).map fun record => ⟨record, none⟩).toList

namespace State

/-! ## The start of a block -/

/-- Counts the start of a repeated block. -/
def enterRepeat (s : State) : State :=
  { s with suppression.repeats := s.suppression.repeats + 1 }

/-- Keeps the items that a block is repeated for until its end. -/
def keepItems (s : State) (items : Items) : State :=
  { s with collected := items :: s.collected }

/-- The start of a block that is repeated for the parts of the active text.
The path `@desc` prints the description instead. -/
def beginParts (env : Environment) (attrs : Attributes) (s : State) : State :=
  let s := s.enterRepeat
  if s.suppression.repeats = 1 then
    match attrs.getD "tag" "" with
    | "" => s.keepItems (.parts [])
    | "@desc" => (s.addText (Text.trim s.active.description)).keepItems (.parts [])
    | tag =>
      let path := Text.replace "@fact" s.active.fact tag
      s.keepItems (.parts (partsAt env.store s.active path))
  else s

/-- The start of a block that is repeated for facts. -/
def beginFacts (env : Environment) (attrs : Attributes) (s : State) : State :=
  let s := s.enterRepeat
  if s.suppression.repeats = 1 then
    s.keepItems (.facts (factsOf env.store s.scope s.active attrs))
  else s

/-- The start of a block that is repeated for the records of a list. -/
def beginList (env : Environment) (attrs : Attributes) (s : State) : Outcome :=
  let s := s.enterRepeat
  if s.suppression.repeats = 1 then
    match recordsOf env.store s.scope s.active attrs with
    | .ok records => .ok (s.keepItems (.records records))
    | .error e => .error ⟨e, s⟩
  else .ok s

/-- The start of a block that is repeated for relatives. -/
def beginRelatives (env : Environment) (attrs : Attributes) (s : State) : State :=
  let s := s.enterRepeat
  if s.suppression.repeats = 1 then
    s.keepItems (.relatives (relativesOf env.store s.scope s.active attrs))
  else s

/-! ## The end of a block -/

/-- Carries out the body of a block once more. -/
def replay (env : Environment) (body : State → Outcome) (s : State) : Outcome :=
  if env.maxReplayDepth ≤ s.replayDepth then .error ⟨.tooDeep env.maxReplayDepth, s⟩
  else
    match body { s with replayDepth := s.replayDepth + 1 } with
    | .ok s => .ok { s with replayDepth := s.replayDepth - 1 }
    | .error failure =>
      .error { failure with state.replayDepth := failure.state.replayDepth - 1 }

/-- Makes a text the active one. -/
def activate (s : State) (text : String) : State :=
  { s with active.text := text }

/-- Makes a fact the active one. -/
def activateFact (s : State) (item : FactItem) : State :=
  { s with
    active :=
      { s.active with
        text := item.text, fact := item.fact, description := item.description,
        type := item.type } }

/-- Makes a relative the active record, with its generation if it has one. -/
def activateRelative (store : Store) (s : State) (relative : Relative) : State :=
  let generation := relative.generation.getD s.active.generation
  { s with active.generation := generation }.activate (store.privatize relative.record)

/-- Sets the totals at the start of a list. -/
def startTotals (s : State) (total : Nat) : State :=
  { s with listTotal := total, listPrivate := 0 }

/-- Carries out the body of a block for a record of a list; one that may not
be shown is only counted. -/
def replayRecord (env : Environment) (body : State → Outcome) (s : State) (record : Record) :
    Outcome :=
  if env.store.canShow record then
    (s.activate (env.store.privatize record)).replay env body
  else .ok { s with listPrivate := s.listPrivate + 1 }

/-- Carries out the body of a block for each of its items. -/
def replayItems (env : Environment) (body : State → Outcome) (s : State) : Items → Outcome
  | .parts texts => texts.foldlM (fun s text => (s.activate text).replay env body) s
  | .facts facts => facts.foldlM (fun s fact => (s.activateFact fact).replay env body) s
  | .records records =>
    records.foldlM (replayRecord env body) (s.startTotals records.length)
  | .relatives relatives =>
    relatives.foldlM (fun s relative => (s.activateRelative env.store relative).replay env body)
      (s.startTotals relatives.length)

/-- The end of a repeated block. The end of the outermost one carries its body
out for each item and then restores the active text. -/
def endRepeat (env : Environment) (body : State → Outcome) (s : State) : Outcome :=
  let s := { s with suppression.repeats := s.suppression.repeats - 1 }
  if 0 < s.suppression.repeats then .ok s
  else
    match s.collected with
    | [] => .ok s
    | items :: rest =>
      match replayItems env body { s with collected := rest } items with
      | .ok done => .ok { done with active := s.active }
      | .error failure => .error failure

end State

end Lineage.Report
