import Lineage.Document.Page
import Lineage.Formula.Scope
import Lineage.Json.Reading
import Lineage.Store.Access

/-!
# Settings of a run

A report is run with settings that are usually read from a JSON file: initial
variables, the level of access, the limit on nested repetitions, the paper and
the form of the output. What is not set has a default; what is not known is
refused.
-/

namespace Lineage

/-- The form in which the collected output is printed. -/
inductive OutputFormat where
  | text
  | json
deriving DecidableEq, Repr

/-- The format with a name. -/
def OutputFormat.ofName? : String → Option OutputFormat
  | "text" => some text
  | "json" => some json
  | _ => none

/-- The settings of a run. `strict` is accepted and changes nothing. -/
structure RunConfig where
  scope : Scope := {}
  access : AccessLevel := .visitor
  maxReplayDepth : Nat := 64
  pageFormat : Option String := none
  strict : Bool := true
  format : OutputFormat := .text
deriving DecidableEq, Repr

/-- Why settings are refused. -/
inductive ConfigError where
  | malformed
  | noReplay
  | unknownPageFormat (name : String)
deriving DecidableEq, Repr

/-- The text of an error. -/
def ConfigError.message : ConfigError → String
  | malformed => "JSON error: not a run configuration"
  | noReplay => "Configuration error: max_replay_depth must be at least 1"
  | unknownPageFormat name => "Configuration error: Unknown page format '" ++ name ++ "'"

namespace RunConfig

/-- The paper of the settings. -/
def paper (config : RunConfig) : Paper :=
  ((config.pageFormat.map Paper.ofName)).getD .a4

/-! ## Reading the settings -/

/-- The level of access with exactly this name. -/
def access? (name : String) : Option AccessLevel :=
  [.visitor, .member, .manager, .admin].find? fun level => level.name == name

/-- A choice between names: the name, or an object with the name as its only
member and nothing as its value. -/
def choice? {α : Type} (ofName? : String → Option α) : JsonValue → Option α
  | .string name => ofName? name
  | .object [(name, .null)] => ofName? name
  | _ => none

/-- A variable of the settings. -/
def entry? : String × JsonValue → Option (String × String)
  | (name, .string value) => some (name, value)
  | _ => none

/-- Sets one setting by its name. -/
def set? (config : RunConfig) (name : String) (value : JsonValue) : Option RunConfig :=
  match name with
  | "vars" =>
    match value with
    | .object members => do
      return { config with scope := .ofList (← members.mapM entry?) }
    | _ => none
  | "access_level" => (choice? access? value).map ({ config with access := · })
  | "max_replay_depth" =>
    match value with
    | .integer n =>
      if 0 ≤ n ∧ n < 18446744073709551616 then some { config with maxReplayDepth := n.toNat } else none
    | _ => none
  | "page_format" =>
    match value with
    | .null => some { config with pageFormat := none }
    | .string name => some { config with pageFormat := some name }
    | _ => none
  | "strict" =>
    match value with
    | .bool b => some { config with strict := b }
    | _ => none
  | "output" => (choice? OutputFormat.ofName? value).map ({ config with format := · })
  | _ => none

/-- The names of the settings, in order. -/
def names : List String :=
  ["vars", "access_level", "max_replay_depth", "page_format", "strict", "output"]

/-- The settings by name of a JSON value: an object, in which no name is
repeated, or an array with the first of them in order. -/
def members? : JsonValue → Option (List (String × JsonValue))
  | .object members => if (members.map Prod.fst).Nodup then some members else none
  | .array items => if items.length ≤ names.length then some (names.zip items) else none
  | _ => none

/-- The settings of a JSON text, before they are checked. -/
def parse? (source : String) : Option RunConfig := do
  let members ← members? (← JsonValue.parse? source)
  members.foldlM (fun config (name, value) => config.set? name value) {}

/-- The settings of a JSON text. -/
def ofJson (source : String) : Except ConfigError RunConfig :=
  match parse? source with
  | none => .error .malformed
  | some config =>
    if config.maxReplayDepth = 0 then .error .noReplay
    else
      match config.pageFormat.filter fun name => (Paper.ofName name).name != name with
      | some name => .error (.unknownPageFormat name)
      | none => .ok config

end RunConfig

end Lineage
