import Lineage.Text.Split

/-!
# Lines with a level number

A record is a block of lines `<level> <tag> [value]`. This module reads the
parts of a single line: its level, the cross-reference of a header line, and
the tag with the value behind it.
-/

namespace Lineage.Leveled

/-- The level number that a line starts with. A number of more than 64 bits
is no level. -/
def level? (line : String) : Option Nat :=
  let digits := line.toList.takeWhile Char.isDigit
  if digits.isEmpty then none
  else (some (Nat.ofDigitChars 10 digits 0)).filter (· < 18446744073709551616)

/-- The level of the first line of a record, or 0 when it has none. -/
def recordLevel (record : String) : Nat :=
  (level? (Text.trimStart record)).getD 0

/-- The cross-reference of a header line `0 @X@ …`. -/
def headerXref? (record : String) : Option String := do
  let first ← (Text.lines (Text.trimStart record)).head?
  let rest ← Text.after? "0 @" first
  let (xref, _) ← Chars.cut? '@' rest.toList
  if xref.isEmpty then none else some (.ofList xref)

/-- Whether a line starts with the given words as whole words: the text ends
there or a blank follows. -/
def hasTag (tag line : String) : Bool :=
  match Chars.after? tag.toList line.toList with
  | none => false
  | some [] => true
  | some (c :: _) => Chars.isBlank c

/-- The letters that a tag consists of, after an optional underscore. -/
def isTagChar (c : Char) : Bool :=
  ('A' ≤ c && c ≤ 'Z') || c.isDigit

/-- The tag and the trimmed value of the first line of a record. The line
must have a level and a tag in capital letters and digits, which an
underscore may precede. -/
def tagAndValue? (record : String) : Option (String × String) := do
  let line ← (Text.lines (Text.trimStart record)).head?
  match Text.splitUpTo ' ' 3 line with
  | level :: tag :: rest =>
    let _ ← level? level
    let name := (Text.after? "_" tag).getD tag
    if tag.isEmpty || !name.toList.all isTagChar then none
    else some (tag, Text.trim (rest.headD ""))
  | _ => none

end Lineage.Leveled
