import Lineage.Command.Arguments
import Lineage.Command.Help
import Lineage.Report.Job

/-!
# Carrying out a command line

What the program does with its arguments, given the files that it may read:
the text it prints or the file it writes, and the code it ends with.
-/

namespace Lineage

namespace Template

/-- The JSON form of an input. -/
def Input.toJson (input : Input) : JsonValue :=
  .object
    [("name", .string input.name), ("type", .string input.type),
      ("lookup", .string input.lookup), ("options", .string input.options),
      ("default", .string input.default), ("value", .string input.label)]

/-- The JSON form of a setup. -/
def Setup.toJson (setup : Setup) : JsonValue :=
  .object
    [("title", .string setup.title), ("description", .string setup.description),
      ("inputs", .array (setup.inputs.map Input.toJson))]

/-- The line that shows an input. -/
def Input.line (input : Input) : String :=
  "  " ++ input.name ++ " (" ++ input.label ++ ")" ++
    (if input.default.isEmpty then "" else " [default: " ++ input.default ++ "]") ++
    (if input.options.isEmpty then "" else " options: " ++ input.options)

/-- A setup as plain text, one line for each part. -/
def Setup.describe (setup : Setup) : String :=
  let description := if setup.description.isEmpty then [] else [setup.description]
  "\n".intercalate (setup.title :: description ++ setup.inputs.map Input.line)

end Template

namespace Command

/-- Why a command fails. -/
inductive CommandError where
  | unreadable (what path : String)
  | unreadableConfig (path : String)
  | config (cause : ConfigError)
  | job (cause : JobError)
deriving DecidableEq, Repr

/-- The text of an error. -/
def CommandError.message : CommandError → String
  | unreadable what path => "I/O error: Failed to read " ++ what ++ " from '" ++ path ++ "'"
  | unreadableConfig path =>
    "Configuration error: Failed to read run configuration '" ++ path ++ "'"
  | config cause => cause.message
  | job cause => cause.message

/-- The exit code of a command that fails; one that breaks down has a code of
its own. -/
def CommandError.code : CommandError → Nat
  | job (.setup .brokenDown) => 101
  | _ => 1

/-- What a command works with: the texts of the files that can be read,
today's day of the common era, and the present time as it is printed. -/
structure Surroundings where
  read : String → Option String
  today : Int
  now : String

/-- What a command leads to: its exit code, what it prints, and a file that it
writes. -/
structure Result where
  code : Nat
  stdout : String := ""
  stderr : String := ""
  write : Option (String × String) := none
deriving DecidableEq, Repr

/-- A file that must be readable. -/
def Surroundings.file (on : Surroundings) (what path : String) : Except CommandError String :=
  match on.read path with
  | some text => .ok text
  | none => .error (.unreadable what path)

/-- The settings of a command: those of the file, with the options of the
command line over them. -/
def settings (on : Surroundings) (args : Arguments) : Except CommandError RunConfig := do
  let config ← match args.config with
    | none => .ok {}
    | some path =>
      match on.read path with
      | none => .error (.unreadableConfig path)
      | some text =>
        match RunConfig.ofJson text with
        | .ok config => .ok config
        | .error cause => .error (.config cause)
  return { config with
    access := args.access.getD config.access
    format := args.format.getD config.format }

/-- The text of a setup. -/
def setupText (on : Surroundings) (args : Arguments) (template : String) :
    Except CommandError String := do
  let config ← settings on args
  let source ← on.file "template" template
  match Template.Setup.read {} on.today source with
  | .error cause => throw (.job (.setup cause))
  | .ok setup =>
    return match config.format with
    | .text => setup.describe
    | .json => setup.toJson.pretty

/-- The plan for a report. -/
def reportPlan (on : Surroundings) (args : Arguments) (template data : String) :
    Except CommandError Plan := do
  let config ← settings on args
  let source ← on.file "template" template
  match ({} : Plan).withTemplate source with
  | .error cause => throw (.job cause)
  | .ok plan =>
    let text ← on.file "GEDCOM file" data
    match plan.withFile text with
    | .error cause => throw (.job cause)
    | .ok plan => return { plan with config }.withVariables args.bindings

/-- The text of a report. -/
def reportText (on : Surroundings) (args : Arguments) (template data : String) :
    Except CommandError String := do
  let plan ← reportPlan on args template data
  match plan.build.bind fun job => job.render on.now with
  | .ok text => return text
  | .error cause => throw (.job cause)

/-- The result of a command that has a text or fails. The text is printed with
a line feed behind it, or written to a file as it is. -/
def Result.ofText (output : Option String) : Except CommandError String → Result
  | .error e => { code := e.code, stderr := "Error: " ++ e.message ++ "\n" }
  | .ok text =>
    match output with
    | none => { code := 0, stdout := text ++ "\n" }
    | some path => { code := 0, write := some (path, text) }

/-- The files that a request needs. -/
def Request.paths : Request → List String
  | help _ | version => []
  | setup args template => template :: args.config.toList
  | report args template data => template :: data :: args.config.toList

/-- The result of a request. -/
def Request.carryOut (on : Surroundings) : Request → Result
  | help long => { code := 0, stdout := helpText long ++ "\n" }
  | version => { code := 0, stdout := versionText ++ "\n" }
  | setup args template => .ofText args.output (setupText on args template)
  | report args template data => .ofText args.output (reportText on args template data)

/-- The result of arguments that are refused. -/
def Result.ofUsageError (e : UsageError) : Result :=
  { code := 2
    stderr :=
      "error: " ++ e.message ++ "\n\n" ++ usageText ++ "\n\nFor more information, try '--help'.\n" }

/-- The result of a command line. -/
def run (on : Surroundings) (texts : List String) : Result :=
  match parse texts with
  | .error e => .ofUsageError e
  | .ok request => request.carryOut on

end Command

end Lineage
