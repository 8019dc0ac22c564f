import Lineage.Leveled.Line

/-!
# Blocks of a record

A block is one line of a record together with the lines nested in it. Blocks
are found by the words that their first line starts with, such as `1 BIRT`,
and counted from 1 in the order of the text.
-/

namespace Lineage.Leveled

/-- Whether a line ends a block of the given level: it has that level or a
lower one, or it has none and starts with the mark `WT_`. -/
def closesBlock (level : Nat) (line : String) : Bool :=
  match level? line with
  | some l => l ≤ level
  | none => Text.startsWith "WT_" line

/-- The lines from the `n`-th one on that carries the tag, `n` counted from
0. -/
def fromTag (tag : String) : Nat → List String → Option (String × List String)
  | _, [] => none
  | n, line :: rest =>
    if hasTag tag line then
      match n with
      | 0 => some (line, rest)
      | n + 1 => fromTag tag n rest
    else fromTag tag n rest

/-- The lines of the `occurrence`-th block that starts with `tag`. -/
def blockLines? (level : Nat) (tag : String) (occurrence : Nat) (lines : List String) :
    Option (List String) :=
  match occurrence with
  | 0 => none
  | n + 1 =>
    (fromTag tag n lines).map fun (first, rest) =>
      first :: rest.takeWhile fun line => !closesBlock level line

/-- The `occurrence`-th block whose first line starts with `tag` (such as
`1 BIRT`): that line and all following ones up to the first that closes a
block of the given level. The empty text when there are fewer. -/
def block (level : Nat) (tag record : String) (occurrence : Nat) : String :=
  let tag := Text.trim tag
  if tag.isEmpty then ""
  else
    match blockLines? level tag occurrence (Text.lines record) with
    | none => ""
    | some lines => Text.trimStart (Text.unlines lines)

/-- How many lines of a record start with `tag`. -/
def countTag (tag record : String) : Nat :=
  (Text.lines record).countP (hasTag (Text.trim tag))

/-- The value of a continuation line of the given level, if the line is
one. -/
def continued? (level : Nat) (line : String) : Option String := do
  let rest ← Text.after? (toString level ++ " CONT") line
  if rest.isEmpty then some "" else Text.after? " " rest

/-- The values of the continuation lines at a level, each after a line
break. -/
def continuation (level : Nat) (record : String) : String :=
  String.join (((Text.lines record).filterMap (continued? level)).map ("\n" ++ ·))

end Lineage.Leveled
