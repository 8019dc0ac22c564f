import Lineage.Leveled.Line

/-!
# Lines and the runs that they form

What the blocks of a record are, said of its lines. A line opens with its level and a
label, and a value may follow. A line that carries a tag starts a run, which goes on up
to the first line that closes it; the block that is found by the tag and a number is
the run of the line with that number.
-/

namespace Lineage.Leveled

/-- What can stand behind the level of a line: a text that is not empty and has no
blanks. -/
structure Label where
  text : String
  nonempty : text.toList ≠ []
  plain : (text.toList.all fun c => !Chars.isBlank c) = true

/-- What the lines of a level with the label open with, such as `1 BIRT`. -/
def Label.opening (label : Label) (level : Nat) : String :=
  toString level ++ " " ++ label.text

/-- The parts that a line is written from. -/
structure Entry where
  level : Nat
  tag : Label
  value : Option String

/-- The line of an entry. It ends with the tag where there is no value. -/
def Entry.line (entry : Entry) : String :=
  match entry.value with
  | none => entry.tag.opening entry.level
  | some value => entry.tag.opening entry.level ++ " " ++ value

/-- Whether a line closes the runs of a level: it has this level or a lower one, or it
has none and starts with the mark `WT_`. -/
def Closes (level : Nat) (line : String) : Prop :=
  (∃ own, level? line = some own ∧ own ≤ level) ∨
    (level? line = none ∧ "WT_".toList <+: line.toList)

/-- A run of lines, with the lines before it and behind it: it starts with the `number`-th
line that carries the tag, and ends in front of the first line behind that one that closes
it, or with the last line. -/
structure IsRun (level : Nat) (tag : String) (lines : List String) (number : Nat)
    (before run after : List String) : Prop where
  lines_eq : lines = before ++ run ++ after
  counted : before.countP (hasTag tag) + 1 = number
  started : ∃ first rest, run = first :: rest ∧ hasTag tag first = true ∧
    ∀ line ∈ rest, ¬ Closes level line
  closed : ∀ line, after.head? = some line → Closes level line

end Lineage.Leveled
