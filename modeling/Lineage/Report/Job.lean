import Lineage.Output.Dump
import Lineage.Output.Encode
import Lineage.Report.Config
import Lineage.Report.Walk
import Lineage.Template.Compile
import Lineage.Template.Setup

/-!
# Report jobs

A job is a report that is ready to be run: a compiled template bound to the
records it is about, a language, variables and settings. A plan collects these
parts; it becomes a job once it has a template and a source of records.
-/

namespace Lineage

/-- Why a job cannot be made or fails. -/
inductive JobError where
  | noTemplate
  | noRecords
  | template (cause : Template.CompileError)
  | setup (cause : Template.SetupError)
  | run (cause : Report.RunError)
  | records (cause : FileError)
  | config (cause : ConfigError)
deriving DecidableEq, Repr

/-- The text of an error. -/
def JobError.message : JobError → String
  | noTemplate =>
    "Configuration error: No template has been configured. " ++
      "Use `with_template_file` or `with_template_source`."
  | noRecords =>
    "Configuration error: No record source has been configured. " ++
      "Use `with_gedcom_file` or `with_provider`."
  | template cause => "Report failed: " ++ cause.message
  | setup cause => "Report failed: " ++ cause.message
  | run cause => "Report failed: " ++ cause.message
  | records cause => "GEDCOM data is invalid: " ++ cause.message
  | config cause => cause.message

/-- The text of a template with its compiled form. -/
structure TemplateSource where
  source : String
  nodes : List Template.Node

/-- Where the records of a report come from: a file, whose records are read
with the access of the settings, or a store with an access of its own. -/
inductive RecordSource where
  | file (records : List Record)
  | store (store : Store)

/-- The parts of a job as far as they are known. -/
structure Plan where
  template : Option TemplateSource := none
  records : Option RecordSource := none
  localizer : Localizer := {}
  scope : Scope := {}
  config : RunConfig := {}

/-- A report that is ready to be run. -/
structure Job where
  template : TemplateSource
  store : Store
  localizer : Localizer
  scope : Scope
  config : RunConfig

namespace Plan

/-- Compiles a template and takes it. -/
def withTemplate (plan : Plan) (source : String) : Except JobError Plan :=
  match Template.compile source with
  | .ok nodes => .ok { plan with template := some ⟨source, nodes⟩ }
  | .error cause => .error (.template cause)

/-- Takes the records of a file. -/
def withFile (plan : Plan) (text : String) : Except JobError Plan :=
  match Record.splitFile text with
  | .ok records => .ok { plan with records := some (.file records) }
  | .error cause => .error (.records cause)

/-- Takes a store. -/
def withStore (plan : Plan) (store : Store) : Plan :=
  { plan with records := some (.store store) }

/-- Adds variables, which replace those of the settings. -/
def withVariables (plan : Plan) (entries : List (String × String)) : Plan :=
  { plan with scope := plan.scope.extend entries }

/-- The finished job. -/
def build (plan : Plan) : Except JobError Job := do
  let template ← match plan.template with
    | some template => .ok template
    | none => .error .noTemplate
  let store ← match plan.records with
    | some (.store store) => .ok store
    | some (.file records) => .ok { Store.ofRecords records with access := plan.config.access }
    | none => .error .noRecords
  let scope := plan.config.scope.extend plan.scope.entries
  return { template, store, scope, localizer := plan.localizer, config := plan.config }

end Plan

namespace Job

/-- What a run of the job works with. -/
def environment (job : Job) (now : String) : Report.Environment :=
  { store := job.store
    localizer := job.localizer
    maxReplayDepth := job.config.maxReplayDepth
    paper := job.config.paper
    now }

/-- Runs the job into an output. -/
def run (job : Job) (now : String) (output : Output) : Except JobError Report.State :=
  match Report.run (job.environment now) job.template.nodes job.scope output with
  | .ok s => .ok s
  | .error failure => .error (.run failure.error)

/-- Runs the job and prints what was collected. -/
def render (job : Job) (now : String) : Except JobError String :=
  (job.run now {}).map fun s =>
    match job.config.format with
    | .text => s.output.dump
    | .json => s.output.toJson.pretty

/-- The setup of the report. -/
def setup (job : Job) (today : Int) : Except JobError Template.Setup :=
  match Template.Setup.read job.localizer today job.template.source with
  | .ok setup => .ok setup
  | .error cause => .error (.setup cause)

end Job

end Lineage
