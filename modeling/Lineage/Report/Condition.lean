import Lineage.Formula.Eval
import Lineage.Formula.Substitution
import Lineage.Leveled.Value
import Lineage.Report.Outcome
import Lineage.Report.Target
import Lineage.Template.Attributes

/-!
# Conditions in a template

The condition of an `if` block is a formula. Variables are replaced by their
values as literals, and references behind an at sign by what the active text
holds, as literals too, so that data cannot change the form of the formula.
-/

namespace Lineage.Report

namespace Active

/-- The cross-reference of the active record. -/
def xref? (active : Active) : Option String :=
  (Leveled.activeXref? active.text).filter fun x => !x.isEmpty

/-- The level at which values are looked for: that of the active text, but at
least 1. -/
def valueLevel (active : Active) : Nat :=
  max (Leveled.recordLevel active.text) 1

end Active

/-- The value at a path of tags in a text. -/
def Environment.value (env : Environment) (path : String) (level : Nat) (text : String) : String :=
  Leveled.value path level text env.store.noteText?

/-- The literal that a reference in a condition stands for. A path of tags is
looked for at the level of the active text and then one level below, and a
value that is a cross-reference loses its at signs. -/
def conditionValue (env : Environment) (active : Active) (reference : String) : String :=
  match reference with
  | "ID" =>
    match active.xref? with
    | some xref => Formula.singleQuoted xref
    | none => "\"\""
  | "fact" => Formula.doubleQuoted active.fact
  | "desc" => Formula.doubleQuoted active.description
  | "generation" => Formula.doubleQuoted (toString active.generation)
  | path =>
    let level := active.valueLevel
    let value := env.value path level active.text
    let value := if value.isEmpty then env.value path (level + 1) active.text else value
    Formula.doubleQuoted ((Leveled.reference? value).getD value)

/-- Whether a condition holds. ` LT ` and ` GT ` stand for the signs, which
are awkward in a template, and `@fact:` starts a path at the active fact. -/
def conditionHolds (env : Environment) (s : State) (condition : String) :
    Except FormulaError Bool := do
  let text ← Substitution.strictQuoted s.scope condition
  let text := Text.replace " LT " "<" text
  let text := Text.replace " GT " ">" text
  let text := Text.replace "@fact:" ("@" ++ s.active.fact ++ ":") text
  Formula.holds (Substitution.tokens (conditionValue env s.active) text)

namespace State

/-- The start of an `if` block, which is skipped when its condition does not
hold. -/
def beginCondition (env : Environment) (attrs : Attributes) (location : Location) (s : State) :
    Outcome :=
  let skip (s : State) : State :=
    { s with suppression.conditions := s.suppression.conditions + 1 }
  if 0 < s.suppression.conditions then .ok (skip s)
  else
    match conditionHolds env s (attrs.getD "condition" "") with
    | .error cause => .error ⟨.ofFormula location cause, s⟩
    | .ok true => .ok s
    | .ok false => .ok (skip s)

/-- The end of an `if` block. -/
def endCondition (s : State) : State :=
  { s with suppression.conditions := s.suppression.conditions - 1 }

end State

end Lineage.Report
