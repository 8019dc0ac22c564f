import Lineage.Report.Config

/-!
# The arguments of the command line

A report is run on a template and a file of records, with options in between
or around them. Options are read from left to right; a request for help or for
the version ends the reading at once, and so does the first fault.
-/

namespace Lineage.Command

/-- What is wrong with the arguments. -/
inductive UsageError where
  | unknownOption (text : String)
  | unexpectedValue (option : String)
  | missingValue (option : String)
  | invalidValue (option value : String)
  | repeatedOption (option : String)
  | unexpectedArgument (text : String)
  | missingArgument (name : String)
deriving DecidableEq, Repr

/-- The text of an error. -/
def UsageError.message : UsageError → String
  | unknownOption text => "unexpected argument '" ++ text ++ "' found"
  | unexpectedValue option => "unexpected value for '" ++ option ++ "' found"
  | missingValue option => "a value is required for '" ++ option ++ "' but none was supplied"
  | invalidValue option value => "invalid value '" ++ value ++ "' for '" ++ option ++ "'"
  | repeatedOption option => "the argument '" ++ option ++ "' cannot be used multiple times"
  | unexpectedArgument text => "unexpected argument '" ++ text ++ "' found"
  | missingArgument name => "the following required arguments were not provided: " ++ name

/-- The arguments that were given. -/
structure Arguments where
  template : Option String := none
  data : Option String := none
  bindings : List (String × String) := []
  config : Option String := none
  access : Option AccessLevel := none
  format : Option OutputFormat := none
  setup : Bool := false
  output : Option String := none
deriving DecidableEq, Repr

/-- What the command line asks for. A run without a setup has data. -/
inductive Request where
  | help (long : Bool)
  | version
  | setup (args : Arguments) (template : String)
  | report (args : Arguments) (template data : String)
deriving DecidableEq, Repr

/-- Reads a variable `NAME=VALUE`; blanks around the name and dollar signs in
front of it do not count. -/
def assignment? (text : String) : Option (String × String) := do
  let (name, value) ← Chars.cut? '=' text.toList
  let name := (Chars.trim name).dropWhile (· == '$')
  if name.isEmpty then none else some (.ofList name, .ofList value)

namespace Arguments

/-- Sets an option that may be given once. -/
def once {α : Type} (option : String) (present : Option α) (value : α) (set : α → Arguments) :
    Except UsageError Arguments :=
  match present with
  | some _ => .error (.repeatedOption option)
  | none => .ok (set value)

/-- A value that is the path of a file. -/
def path (option value : String) : Except UsageError String :=
  if value.isEmpty then .error (.missingValue option) else .ok value

/-- A value that was understood. -/
def understood {α : Type} (option value : String) : Option α → Except UsageError α
  | some a => .ok a
  | none => .error (.invalidValue option value)

/-- Whether an option has a value. -/
def takesValue (option : String) : Bool :=
  ["--var", "--config", "--access-level", "--format", "--output"].contains option

/-- Sets an option with a value. -/
def set (args : Arguments) (option value : String) : Except UsageError Arguments := do
  match option with
  | "--var" =>
    let entry ← understood option value (assignment? value)
    return { args with bindings := args.bindings ++ [entry] }
  | "--config" =>
    once option args.config (← path option value) ({ args with config := some · })
  | "--access-level" =>
    let level ← understood option value (AccessLevel.ofName? value)
    once option args.access level ({ args with access := some · })
  | "--format" =>
    let format ← understood option value (OutputFormat.ofName? value)
    once option args.format format ({ args with format := some · })
  | "--output" =>
    once option args.output (← path option value) ({ args with output := some · })
  | _ => throw (.unknownOption option)

/-- Takes an argument that is no option. -/
def addPath (args : Arguments) (text : String) : Except UsageError Arguments :=
  match args.template, args.data with
  | none, _ => (path "<TEMPLATE>" text).map ({ args with template := some · })
  | _, none => (path "[DATA]" text).map ({ args with data := some · })
  | some _, some _ => .error (.unexpectedArgument text)

/-- The request of complete arguments. Data are only needed to run a
report. -/
def finish (args : Arguments) : Except UsageError Request :=
  match args.template, args.data with
  | none, _ => .error (.missingArgument "<TEMPLATE>")
  | some template, data =>
    if args.setup then .ok (.setup args template)
    else
      match data with
      | some data => .ok (.report args template data)
      | none => .error (.missingArgument "[DATA]")

end Arguments

/-- Whether an argument can only be an option. -/
def isOption (text : String) : Bool :=
  match text.toList with
  | '-' :: _ :: _ => true
  | _ => false

/-- An argument taken apart. -/
inductive Word where
  | separator
  | long (name : String) (value : Option String)
  | short (letter : Char) (value : Option String)
  | path (text : String)
deriving DecidableEq, Repr

/-- Takes an argument apart. A value may be joined to its option, behind an
equals sign or, for an option of one letter, at once. -/
def Word.ofText (text : String) : Word :=
  match text.toList with
  | ['-', '-'] => separator
  | '-' :: '-' :: cs =>
    match Chars.cut? '=' cs with
    | some (name, value) => long (.ofList name) (some (.ofList value))
    | none => long (.ofList cs) none
  | '-' :: letter :: rest =>
    match rest with
    | [] => short letter none
    | '=' :: value => short letter (some (.ofList value))
    | value => short letter (some (.ofList value))
  | _ => path text

mutual

/-- Reads the arguments from left to right. -/
def parseFrom (args : Arguments) : List String → Except UsageError Request
  | [] => args.finish
  | text :: rest =>
    match Word.ofText text with
    | .separator => parsePaths args rest
    | .path text =>
      match args.addPath text with
      | .ok args => parseFrom args rest
      | .error e => .error e
    | .short 'h' _ => .ok (.help false)
    | .short 'V' _ => .ok .version
    | .short 'o' value => parseOption args "--output" value rest
    | .short _ _ => .error (.unknownOption text)
    | .long "help" none => .ok (.help true)
    | .long "version" none => .ok .version
    | .long "setup" none =>
      if args.setup then .error (.repeatedOption "--setup")
      else parseFrom { args with setup := true } rest
    | .long name value =>
      if Arguments.takesValue ("--" ++ name) then parseOption args ("--" ++ name) value rest
      else if value.isSome ∧ ["help", "version", "setup"].contains name then
        .error (.unexpectedValue ("--" ++ name))
      else .error (.unknownOption text)

/-- Reads the value of an option, which is the next argument unless it is
joined to the option, and goes on. -/
def parseOption (args : Arguments) (option : String) (value : Option String)
    (rest : List String) : Except UsageError Request :=
  match value with
  | some value =>
    match args.set option value with
    | .ok args => parseFrom args rest
    | .error e => .error e
  | none =>
    match rest with
    | [] => .error (.missingValue option)
    | next :: rest =>
      if isOption next then .error (.missingValue option)
      else
        match args.set option next with
        | .ok args => parseFrom args rest
        | .error e => .error e

/-- Reads arguments none of which is an option. -/
def parsePaths (args : Arguments) : List String → Except UsageError Request
  | [] => args.finish
  | text :: rest =>
    match args.addPath text with
    | .ok args => parsePaths args rest
    | .error e => .error e

end

/-- Reads a command line. -/
def parse (texts : List String) : Except UsageError Request :=
  parseFrom {} texts

end Lineage.Command
