import Lineage.Pattern.Basic
import Lineage.Text.Blank

/-!
# Flags of patterns

What changes the meaning of the notation of patterns, and how: the flags are
set by letters in the notation itself. Without the flag `unicode` a pattern
knows the letters, digits and words of ASCII only, and what would match part of
a character beyond ASCII is refused.
-/

namespace Lineage

/-- What changes the meaning of the notation. -/
structure PatternFlags where
  ignoreCase : Bool := false
  lineAnchors : Bool := false
  dotIsAny : Bool := false
  unicode : Bool := true
  returnsBreak : Bool := false
  spaced : Bool := false
deriving DecidableEq, Repr

namespace PatternFlags

/-- Sets the flag that a letter names. The flag `U` exchanges repetitions that
take much for those that take little, which does not change where a pattern
occurs. -/
def set? (flags : PatternFlags) (value : Bool) : Char → Option PatternFlags
  | 'i' => some { flags with ignoreCase := value }
  | 'm' => some { flags with lineAnchors := value }
  | 's' => some { flags with dotIsAny := value }
  | 'u' => some { flags with unicode := value }
  | 'R' => some { flags with returnsBreak := value }
  | 'x' => some { flags with spaced := value }
  | 'U' => some flags
  | _ => none

/-- Sets the flags that letters name; those behind a hyphen are switched off.
No letter may come twice, nor the hyphen come twice or last. -/
def setAll? (flags : PatternFlags) (letters : List Char) : Option PatternFlags := do
  let on := letters.takeWhile (· != '-')
  let off := letters.dropWhile (· != '-')
  if ¬ letters.Nodup ∨ off = ['-'] then none
  else
    let flags ← on.foldlM (fun flags c => flags.set? true c) flags
    off.tail.foldlM (fun flags c => flags.set? false c) flags

/-! ## Blanks in the notation -/

/-- Drops the blanks and comments at the start of a text. A comment lasts from
a number sign to the end of the line. -/
def dropBlanks (inComment : Bool) : List Char → List Char
  | [] => []
  | c :: rest =>
    if inComment then dropBlanks (c != '\n') rest
    else if Chars.isBlank c then dropBlanks false rest
    else if c = '#' then dropBlanks true rest
    else c :: rest

theorem length_dropBlanks_le (inComment : Bool) (cs : List Char) :
    (dropBlanks inComment cs).length ≤ cs.length := by
  induction cs generalizing inComment with
  | nil => simp [dropBlanks]
  | cons c rest ih =>
    unfold dropBlanks
    split
    · exact Nat.le_succ_of_le (ih _)
    · split
      · exact Nat.le_succ_of_le (ih _)
      · split
        · exact Nat.le_succ_of_le (ih _)
        · exact Nat.le_refl _

/-- What follows blanks, where the notation may have them. -/
def skip (flags : PatternFlags) (cs : List Char) : List Char :=
  if flags.spaced then dropBlanks false cs else cs

theorem length_skip_le (flags : PatternFlags) (cs : List Char) :
    (flags.skip cs).length ≤ cs.length := by
  unfold skip
  split
  · exact length_dropBlanks_le false cs
  · exact Nat.le_refl _

/-- The characters up to a closing brace, blanks left out, and what follows
it. -/
def braced? (flags : PatternFlags) (cs : List Char) : Option (List Char × List Char) :=
  upTo? (flags.skip cs)
where
  /-- The same for a text that does not start with blanks. -/
  upTo? : List Char → Option (List Char × List Char)
    | [] => none
    | c :: rest =>
      if c = '\x7d' then some ([], rest)
      else (upTo? (flags.skip rest)).map fun (inner, rest) => (c :: inner, rest)
  termination_by cs => cs.length
  decreasing_by exact Nat.lt_succ_of_le (flags.length_skip_le rest)

/-! ## Sets and characters -/

/-- A set as the flags make it: closed under changes of case where case is
ignored. -/
def folded (flags : PatternFlags) (set : CharSet) : CharSet :=
  if !flags.ignoreCase then set
  else if flags.unicode then set.anyCase
  else set.anyAsciiCase

/-- A set or its complement, which only whole characters have. -/
def signed? (flags : PatternFlags) (negated : Bool) (set : CharSet) : Option CharSet :=
  if !negated then some set
  else if flags.unicode then some set.complement
  else none

/-- The characters that a character stands for. -/
def forms (flags : PatternFlags) (c : Char) : CharSet :=
  if flags.ignoreCase ∧ (flags.unicode ∨ c.toNat < 128) then flags.folded (.single c)
  else .single c

/-- The characters that a dot stands for. -/
def dot? (flags : PatternFlags) : Option CharSet :=
  if !flags.unicode then none
  else if flags.dotIsAny then some .all
  else if flags.returnsBreak then some (CharSet.union (.single '\n') (.single '\r')).complement
  else some (CharSet.single '\n').complement

/-- The position that a circumflex stands for. -/
def startAnchor (flags : PatternFlags) : Anchor :=
  if flags.lineAnchors then .lineStart flags.returnsBreak else .textStart

/-- The position that a dollar sign stands for. -/
def endAnchor (flags : PatternFlags) : Anchor :=
  if flags.lineAnchors then .lineEnd flags.returnsBreak else .textEnd

end PatternFlags

end Lineage
