import Lineage.Date.Display
import Lineage.Formula.Localized
import Lineage.Report.Condition
import Lineage.Template.Measure

/-!
# Elements that print or store values

Names of people, values of records, variables, generations and totals.
-/

namespace Lineage.Report

/-- The text, or its first `limit` characters with a mark behind them when it
is longer. -/
def shortened (limit : Nat) (mark text : String) : String :=
  let cs := text.toList
  if cs.length ≤ limit then text
  else .ofList (Chars.trimEnd (cs.take limit)) ++ mark

/-- Replaces a value that is a call for localized text by its answer. -/
def Environment.localize (env : Environment) (value : String) : String :=
  match LocalizedCall.parse? value with
  | some call => env.localizer.answer call
  | none => value

/-- The text shortened as the `truncate` attribute says. -/
def Environment.truncated (env : Environment) (attrs : Attributes) (text : String) : String :=
  let limit := attrs.whole "truncate" 0
  if 0 < limit then shortened limit.toNat (env.localizer.translate "…") text else text

/-- Replaces `@desc` and `@fact`. -/
def fillPlaceholders (description fact : List Char) : List Char → List Char
  | [] => []
  | '@' :: 'd' :: 'e' :: 's' :: 'c' :: rest =>
    description ++ fillPlaceholders description fact rest
  | '@' :: 'f' :: 'a' :: 'c' :: 't' :: rest => fact ++ fillPlaceholders description fact rest
  | c :: rest => c :: fillPlaceholders description fact rest

namespace Active

/-- The name of the active fact in the language of the reader. An event or
attribute without a tag of its own has the name of its type. -/
def factLabel (active : Active) (localizer : Localizer) : String :=
  if (active.fact = "EVEN" ∨ active.fact = "FACT") ∧ !active.type.isEmpty then active.type
  else localizer.factLabel active.fact

/-- What a value to be stored stands for, before variables are replaced: a
property of the active text when it is or holds a reference. -/
def assignedValue (active : Active) (value : String) : String :=
  match value with
  | "@ID" => active.xref?.getD value
  | "@fact" => active.fact
  | "@desc" => active.description
  | "@generation" => toString active.generation
  | _ =>
    match Substitution.firstReference? value with
    | some tag => (Leveled.firstValue? tag active.text).getD value
    | none => value

end Active

/-- The last part of a path of tags, which blanks separate too. -/
def lastTag (path : String) : String :=
  .ofList ((Chars.splitWhere (fun c => c == ':' || c == ' ') path.toList).getLastD [])

/-- The form in which the value at a path is printed: a date in full, of a
place the first part. -/
def printedValue (path value : String) : String :=
  match lastTag path with
  | "DATE" => (Date.parse value).display
  | "PLAC" | "PLACE" => Text.trim ((Text.split ',' value).headD "")
  | _ => value

/-- Starts a new line before each opening parenthesis but one at the very
start. -/
def breakBeforeParentheses (value : String) : String :=
  let value := Text.replace "(" "<br>(" value
  (Text.after? "<br>" value).getD value

namespace State

/-- Prints the name of a person. -/
def printName (env : Environment) (attrs : Attributes) (s : State) : State :=
  let target := Target.ofAttribute (attrs.get? "id")
  match (target.xref? s.active.text s.scope).bind env.store.record? with
  | none => s
  | some person =>
    if !env.store.canShowName person then s.addText (env.localizer.translate "Private")
    else
      let name :=
        if 0 < attrs.whole "truncate" 0 then env.truncated attrs person.fullName
        else
          match person.alternateName?.filter fun name => !name.isEmpty with
          | some alternate => person.fullName ++ " " ++ alternate
          | none => person.fullName
      s.addText (Text.trim name)

/-- Prints a value of the active text. -/
def printValue (env : Environment) (attrs : Attributes) (s : State) : State :=
  match attrs.nonEmpty? "tag" with
  | none => s
  | some "@desc" => s.addText (Text.trim s.active.description)
  | some "@id" => s.addText (s.active.xref?.getD "")
  | some tag =>
    let path := Text.replace "@fact" s.active.fact tag
    let given := attrs.whole "level" 0
    let level := if 0 < given then given.toNat else s.active.valueLevel
    let value := printedValue path (env.value path level s.active.text)
    let value :=
      if attrs.switch "newline" false || attrs.switch "use_break" false then
        breakBeforeParentheses value
      else value
    s.addText (env.truncated attrs value)

/-- Prints a variable, or a message with the active fact in it. -/
def printVariable (env : Environment) (attrs : Attributes) (s : State) : State :=
  let name := attrs.getD "var" ""
  let text :=
    match (s.scope.get? name).filter fun value => !value.isEmpty with
    | some value => value
    | none =>
      env.localize (.ofList (fillPlaceholders s.active.description.toList
        (s.active.factLabel env.localizer).toList name.toList))
  let text := if attrs.get? "date" = some "1" then (Date.parse text).display else text
  { s.addText text with lastText := text }

/-- Stores a value in a variable. The name may be held by a variable itself. -/
def assign (env : Environment) (attrs : Attributes) (location : Location) (s : State) : Outcome :=
  let given := attrs.getD "name" ""
  let name := ((Substitution.onlyVariable? given).bind s.scope.get?).getD given
  let value := s.active.assignedValue (attrs.getD "value" "")
  let value := env.localize (Substitution.lenient s.scope value)
  match Formula.assigned value with
  | .error cause => .error ⟨.ofFormula location cause, s⟩
  | .ok value => .ok { s with scope := s.scope.set name value }

/-- Prints the number of the present generation. -/
def printGeneration (env : Environment) (s : State) : State :=
  s.addText (env.localizer.number s.active.generation)

/-- Prints the size of the last list, with the number of records shown in
front when some are private. -/
def printTotal (s : State) : State :=
  if s.listPrivate = 0 then s.addText (toString s.listTotal)
  else s.addText (toString (s.listTotal - s.listPrivate) ++ " / " ++ toString s.listTotal)

end State

end Lineage.Report
