import Lineage.Record.Split

/-!
# The layout of a file

What is at fault in a file, and what its records are, said about its lines as a
whole. A line is at fault by its own level and by the lines before it. The lines of
a file without faults fall into blocks, each with a single line of level 0 at its
start, and the blocks with a header line are the records.
-/

namespace Lineage.Record

/-- The level of a line, without regard to the blanks in front of it. -/
def lineLevel? (line : String) : Option Nat :=
  Leveled.level? (Text.trimStart line)

/-- A fault of the line with the given index. The line is not blank and has no level,
or it has a level other than 0 and no line before it has level 0. -/
inductive Fault (lines : List String) (index : Nat) : FileError → Prop where
  | noLevel {line : String} (found : lines[index]? = some line)
      (notBlank : Text.isAllBlank line = false) (noLevel : lineLevel? line = none) :
      Fault lines index (.noLevel (index + 1))
  | beforeFirstRecord {line : String} {level : Nat} (found : lines[index]? = some line)
      (hasLevel : lineLevel? line = some level) (notZero : level ≠ 0)
      (first : ∀ earlier ∈ lines.take index, lineLevel? earlier ≠ some 0) :
      Fault lines index (.beforeFirstRecord (index + 1))

/-- The fault of the first line that is at fault. -/
def FirstFault (lines : List String) (error : FileError) : Prop :=
  ∃ index, Fault lines index error ∧ ∀ earlier < index, ∀ other, ¬ Fault lines earlier other

/-- The lines of a file, behind its byte order marks. -/
def fileLines (text : String) : List String :=
  Text.lines (dropByteOrderMarks text)

/-- The lines of a file that are not blank, without the blanks in front of them. -/
def leveledLines (lines : List String) : List String :=
  (lines.filter (!Text.isAllBlank ·)).map Text.trimStart

/-- A line of level 0 with lines of other levels behind it. -/
def IsBlock (block : List String) : Prop :=
  ∃ first rest, block = first :: rest ∧ Leveled.level? first = some 0 ∧
    ∀ line ∈ rest, ∃ level, Leveled.level? line = some level ∧ level ≠ 0

/-- The blocks that the lines of a file fall into, in order. -/
structure IsPartition (lines : List String) (blocks : List (List String)) : Prop where
  lines_eq : blocks.flatten = leveledLines lines
  sound : ∀ block ∈ blocks, IsBlock block

/-- A header line `0 @X@ KIND`: the cross-reference goes up to the next at sign, and the
kind is the third word. -/
structure IsHeader (line xref kind : String) : Prop where
  opening : ∃ rest, line = "0 @" ++ xref ++ "@" ++ rest
  nonempty : xref ≠ ""
  closed : '@' ∉ xref.toList
  third : (Text.words line)[2]? = some kind

/-- A block that is a record: it starts with a header line, and its lines are the text of
the record. -/
structure IsRecord (block : List String) (record : Record) : Prop where
  header : ∃ first rest kind, block = first :: rest ∧ IsHeader first record.xref kind ∧
    record.kind = .ofTag kind
  text : record.text = Text.unlines block

/-- The records among the blocks of a file, in order. Other blocks are passed over. -/
inductive RecordsOf : List (List String) → List Record → Prop where
  | nil : RecordsOf [] []
  | record {block : List String} {record : Record} {blocks : List (List String)}
      {records : List Record} (h : IsRecord block record) (later : RecordsOf blocks records) :
      RecordsOf (block :: blocks) (record :: records)
  | other {block : List String} {blocks : List (List String)} {records : List Record}
      (h : ∀ record, ¬ IsRecord block record) (later : RecordsOf blocks records) :
      RecordsOf (block :: blocks) records

end Lineage.Record
