import Lineage.Record.Basic

/-!
# Records of a whole file

A file is a sequence of lines that each have a level number. A line of level 0
starts a new record; blank lines and blanks in front of a line do not count. A
record without a cross-reference, such as the header and the trailer, is left
out.
-/

namespace Lineage

/-- Why a file cannot be split into records. -/
inductive FileError where
  | empty
  | noLevel (line : Nat)
  | beforeFirstRecord (line : Nat)
deriving DecidableEq, Repr

/-- The text of an error. Lines are counted from 1. -/
def FileError.message : FileError → String
  | empty => "GEDCOM input is empty"
  | noLevel line => malformed line "line has no level number"
  | beforeFirstRecord line => malformed line "data before the first level 0 record"
where
  /-- The form that both faults of a line share. -/
  malformed (line : Nat) (what : String) : String :=
    "Malformed GEDCOM at line " ++ toString line ++ ": " ++ what

namespace Record

/-- Gathers lines into blocks, each starting at a line of level 0. `number` is
the number of the next line; `block` holds the lines of the block being read,
last line first, and is empty before the first block. -/
def gatherBlocks (number : Nat) (block : List String) :
    List String → Except FileError (List (List String))
  | [] => .ok (close block)
  | line :: rest =>
    let line := Text.trimStart line
    if line.isEmpty then gatherBlocks (number + 1) block rest
    else
      match Leveled.level? line with
      | some 0 => (gatherBlocks (number + 1) [line] rest).map (close block ++ ·)
      | some _ =>
        if block.isEmpty then .error (.beforeFirstRecord number)
        else gatherBlocks (number + 1) (line :: block) rest
      | none => .error (.noLevel number)
where
  /-- The finished block, if one was being read. -/
  close (block : List String) : List (List String) :=
    if block.isEmpty then [] else [block.reverse]

/-- The text of a file without byte order marks at its start. -/
def dropByteOrderMarks (text : String) : String :=
  .ofList (text.toList.dropWhile (· == '\uFEFF'))

/-- Splits a file into its records. -/
def splitFile (text : String) : Except FileError (List Record) := do
  let text := dropByteOrderMarks text
  if Text.isAllBlank text then throw .empty
  let blocks ← gatherBlocks 1 [] (Text.lines text)
  return blocks.filterMap fun block => parse? (Text.unlines block)

end Record

end Lineage
