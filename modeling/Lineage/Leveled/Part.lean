import Lineage.Leveled.Line
import Lineage.Leveled.Tree
import Lineage.Text.Property

/-!
# Parts of a text along a path

The parts of a text that a path of tags leads to, said of its lines: the last tag
gives a part for each line that carries it at its level, and every tag before it
narrows the text to the first of its parts, one level deeper each time. A part is a
line with the deeper ones behind it.
-/

namespace Lineage.Leveled

/-- Whether a line starts with a number. -/
def isNumbered (line : String) : Bool :=
  line.toList.head?.any Char.isDigit

/-- Whether a line may be nested in one of a level. A number of more than 64 bits is
deeper than all levels. -/
def isDeeper (level : Nat) (line : String) : Bool :=
  (level? line).all (level < ·)

/-- The parts among some lines, in their order: one for each line that carries the tag
at the level. -/
def parts (level : Nat) (tag : Tag) : List String → List (List String)
  | [] => []
  | line :: rest =>
    if hasTag (toString level ++ " " ++ tag.text) line then
      (line :: rest.takeWhile (isDeeper level)) :: parts level tag rest
    else parts level tag rest

/-- The parts of a text along a path whose first tag is of the given level. -/
def partsAlong (level : Nat) (text : String) : List Tag → List (List String)
  | [] => []
  | [tag] => parts level tag (Text.lines text)
  | tag :: next :: rest =>
    match parts level tag (Text.lines text) with
    | [] => []
    | first :: _ => partsAlong (level + 1) (Text.unlines first) (next :: rest)

/-- Whether a text starts with a line `<digit> <tag> @X@`, or one that goes on behind
that. -/
def StartsWithLink (xref text : String) : Prop :=
  ∃ digit tag rest,
    text.toList = digit :: ' ' :: (tag ++ ' ' :: '@' :: (xref.toList ++ '@' :: rest)) ∧
      Chars.isDecimal digit = true ∧ tag ≠ [] ∧ (∀ c ∈ tag, Chars.isBlank c = false) ∧
      xref ≠ "" ∧ '@' ∉ xref.toList

end Lineage.Leveled
