import Lineage.Report.Condition

/-!
# Switching to another record

A `Gedcom` block makes another record, or a part of one, the active text. What
it names is looked up as far as the reader may see it; the block is skipped
when nothing is there.
-/

namespace Lineage.Report

/-- The text of a record as far as it may be seen, if there is any. -/
def Environment.visibleText? (env : Environment) (xref : String) : Option String :=
  ((env.store.record? xref).map env.store.privatize).filter fun text => !text.isEmpty

/-- Follows the steps of a path from a text. A link that is not there ends the
walk with the empty text. -/
def followPath (env : Environment) (scope : Scope) : String → List Step → String
  | text, [] => text
  | _, .heldBy name :: rest =>
    followPath env scope (((scope.get? name).bind env.visibleText?).getD "") rest
  | text, .linked tag :: rest =>
    match Leveled.linkedXref? tag text with
    | some xref => followPath env scope ((env.visibleText? xref).getD "") rest
    | none => ""
  | text, .part tag :: rest =>
    let level := 1 + Leveled.recordLevel text
    followPath env scope (Leveled.block level (toString level ++ " " ++ tag) text 1) rest

/-- The text that is named, empty when nothing is there. A word that is no
cross-reference is the tag of a part of the active text, and no word at all
stands for its first part. -/
def targetText (env : Environment) (s : State) (target : Target) : String :=
  match target with
  | .path steps => followPath env s.scope s.active.text steps
  | .literal xref =>
    match env.visibleText? xref with
    | some text => text
    | none => followPath env s.scope s.active.text [.part xref]
  | .active => followPath env s.scope s.active.text [.part ""]
  | target =>
    ((target.xref? s.active.text s.scope).bind env.visibleText?).getD ""

namespace State

/-- Makes a text the active one, with the fact on its first line. -/
def switchTo (s : State) (text : String) : State :=
  let active :=
    match Leveled.tagAndValue? text with
    | some (fact, description) => { s.active with text, fact, description }
    | none => { s.active with text }
  { s with
    savedRecords := ⟨s.active.text, s.active.fact, s.active.description⟩ :: s.savedRecords
    active }

/-- The start of a `Gedcom` block. -/
def beginSwitch (env : Environment) (attrs : Attributes) (s : State) : State :=
  let skip (s : State) : State :=
    { s with suppression.switches := s.suppression.switches + 1 }
  if 0 < s.suppression.switches then skip s
  else
    let id := Text.replace "@fact" s.active.fact (attrs.getD "id" "")
    let text := targetText env s (.ofText id)
    if text.isEmpty then skip s else s.switchTo text

/-- The end of a `Gedcom` block. -/
def endSwitch (s : State) : State :=
  if 0 < s.suppression.switches then
    { s with suppression.switches := s.suppression.switches - 1 }
  else
    match s.savedRecords with
    | [] => s
    | saved :: rest =>
      { s with
        savedRecords := rest
        active :=
          { s.active with
            text := saved.text, fact := saved.fact, description := saved.description } }

end State

end Lineage.Report
