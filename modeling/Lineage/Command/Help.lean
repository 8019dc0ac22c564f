/-!
# Help and version

The texts that the command line prints about itself. Help has a short form, in
which every entry is a line, and a long one, in which it is explained below
and stands apart from the next.
-/

namespace Lineage.Command

/-- The name of the program. -/
def programName : String := "gedreport"

/-- The version of the program. -/
def programVersion : String := "0.1.0"

/-- What the program is for. -/
def programPurpose : String :=
  "Genealogical report engine: XML report templates interpreted over GEDCOM family trees"

/-- The answer to a request for the version. -/
def versionText : String :=
  programName ++ " " ++ programVersion

/-- How the program is called. -/
def usageText : String :=
  "Usage: " ++ programName ++ " [OPTIONS] <TEMPLATE> [DATA]"

/-- An entry of the help: how an argument is written, and what it does. -/
structure HelpEntry where
  form : String
  lines : List String

/-- The entries for the arguments that are no options. -/
def argumentEntries : List HelpEntry :=
  [⟨"<TEMPLATE>", ["Report template (XML)"]⟩, ⟨"[DATA]", ["Family tree data (GEDCOM)"]⟩]

/-- The entries for the options. The values of the format are explained in the
long form only. -/
def optionEntries (long : Bool) : List HelpEntry :=
  [⟨"    --var <NAME=VALUE>",
      ["Sets a report variable, e.g. `--var sortby=BIRT:DATE`. Repeatable"]⟩,
    ⟨"    --config <FILE>", ["JSON run configuration"]⟩,
    ⟨"    --access-level <ACCESS_LEVEL>",
      ["Who is reading the report: visitor, member, manager or admin"]⟩,
    ⟨"    --format <FORMAT>",
      if long then
        ["Possible values:", "- text: One line per document element",
          "- json: The collected document as pretty-printed JSON"]
      else ["[possible values: text, json]"]⟩,
    ⟨"    --setup", ["Print the report's title, description and inputs instead of running it"]⟩,
    ⟨"-o, --output <FILE>", ["Write the output here instead of stdout"]⟩,
    ⟨"-h, --help",
      [if long then "Print help (see a summary with '-h')"
        else "Print help (see more with '--help')"]⟩,
    ⟨"-V, --version", ["Print version"]⟩]

/-- An entry with its explanation on lines of their own. -/
def HelpEntry.below (entry : HelpEntry) : String :=
  "\n".intercalate (("  " ++ entry.form) :: entry.lines.map ("          " ++ ·))

/-- An entry with its explanation beside it, behind a column of the given
width. -/
def HelpEntry.beside (width : Nat) (entry : HelpEntry) : String :=
  "  " ++ entry.form ++ .ofList (List.replicate (width - entry.form.length) ' ') ++ "  " ++
    " ".intercalate entry.lines

/-- The entries of a part of the help. In the short form the explanations
stand in one column. -/
def entriesText (long : Bool) (entries : List HelpEntry) : String :=
  if long then "\n\n".intercalate (entries.map HelpEntry.below)
  else
    let width := entries.foldl (fun width entry => max width entry.form.length) 0
    "\n".intercalate (entries.map (HelpEntry.beside width))

/-- The help. -/
def helpText (long : Bool) : String :=
  "\n\n".intercalate
    [programPurpose, usageText, "Arguments:\n" ++ entriesText long argumentEntries,
      "Options:\n" ++ entriesText long (optionEntries long)]

end Lineage.Command
