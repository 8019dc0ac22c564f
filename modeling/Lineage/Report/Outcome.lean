import Lineage.Formula.Basic
import Lineage.Formula.Localizer
import Lineage.Markup.Location
import Lineage.Report.State

/-!
# The outcome of a report run

What a run works with, the reasons for which it can fail, and the failure
itself, which keeps the state that the run had reached.
-/

namespace Lineage.Report

/-- What a run works with: the records, the language of the reader, the limit
on nested repetitions, the paper when the template names none, and the present
time as it is printed. -/
structure Environment where
  store : Store := {}
  localizer : Localizer := {}
  maxReplayDepth : Nat := 64
  paper : Paper := .a4
  now : String := ""

/-- Why a run fails. -/
inductive RunError where
  | undefinedVariable (name : String) (location : Location)
  | formula (cause : FormulaError) (location : Location)
  | invalidList (name : String)
  | tooDeep (limit : Nat)
  | output (cause : OutputError)
deriving DecidableEq, Repr

namespace RunError

/-- The error of a formula at a location of the template. -/
def ofFormula (location : Location) : FormulaError → RunError
  | .undefinedVariable name => undefinedVariable name location
  | cause => formula cause location

/-- The text of an error. -/
def message : RunError → String
  | undefinedVariable name location =>
    "Undefined variable $" ++ name ++ " in report at " ++ location.describe
  | formula cause location => "Expression error at " ++ location.describe ++ ": " ++ cause.message
  | invalidList name => "Invalid list name: " ++ name
  | tooDeep limit => "Repeated blocks nested deeper than " ++ toString limit ++ " levels"
  | output cause => "Render error: Renderer backend error: " ++ cause.message

end RunError

/-- A failure: its cause, and the state that the run had reached. -/
structure Failure where
  error : RunError
  state : State

/-- The outcome of a part of a run. -/
abbrev Outcome := Except Failure State

end Lineage.Report
