import Lineage.Text.Blank

/-!
# Lines, pieces and searches

Cutting a text at line breaks and at separators, looking for a piece of text
inside another, and joining lines again. A line break is a line feed with the
carriage return in front of it, if there is one; a carriage return anywhere
else is an ordinary character.
-/

namespace Lineage.Chars

/-- The lines of a text. What follows the last line break is a line only when
it is not empty. -/
def lines : List Char → List (List Char)
  | [] => []
  | '\n' :: rest => [] :: lines rest
  | '\r' :: '\n' :: rest => [] :: lines rest
  | c :: rest => consHead c (lines rest)

/-- The pieces between the occurrences of a separator. -/
def split (sep : Char) (cs : List Char) : List (List Char) :=
  splitWhere (· == sep) cs

/-- The text before and after the first occurrence of a separator. -/
def cut? (sep : Char) : List Char → Option (List Char × List Char)
  | [] => none
  | c :: rest =>
    if c = sep then some ([], rest)
    else (cut? sep rest).map fun (before, after) => (c :: before, after)

/-- What follows a text that must come first. -/
def after? : List Char → List Char → Option (List Char)
  | [], cs => some cs
  | _ :: _, [] => none
  | p :: ps, c :: cs => if p = c then after? ps cs else none

/-- The text before and after the first occurrence of `needle`. -/
def cutAt? (needle cs : List Char) : Option (List Char × List Char) :=
  match after? needle cs, cs with
  | some rest, _ => some ([], rest)
  | none, [] => none
  | none, c :: rest => (cutAt? needle rest).map fun (before, after) => (c :: before, after)

/-- Splits at the first separators only, into at most `n` pieces; the last
piece keeps the separators it holds. -/
def splitUpTo (sep : Char) : Nat → List Char → List (List Char)
  | 0, _ => []
  | 1, cs => [cs]
  | n + 2, cs =>
    match cut? sep cs with
    | none => [cs]
    | some (before, after) => before :: splitUpTo sep (n + 1) after

/-- What precedes a text that must come last. -/
def before? (last cs : List Char) : Option (List Char) :=
  (after? last.reverse cs.reverse).map List.reverse

/-- The first success of `f` among the suffixes of a text, longest suffix
first and the empty one last. -/
def firstSuffix? {α : Type} (f : List Char → Option α) : List Char → Option α
  | [] => f []
  | c :: rest =>
    match f (c :: rest) with
    | some a => some a
    | none => firstSuffix? f rest

/-- What follows the first occurrence of `needle`. -/
def afterFirst? (needle cs : List Char) : Option (List Char) :=
  firstSuffix? (after? needle) cs

/-- The rest of the line that a text starts in. -/
def restOfLine (cs : List Char) : List Char :=
  cs.takeWhile (· != '\n')

/-- Replaces each occurrence of `needle`, from the left and without overlap;
an empty needle occurs nowhere. -/
def replace (needle new : List Char) (cs : List Char) : List Char :=
  match needle with
  | [] => cs
  | n :: ns => go n ns 0 cs
where
  /-- Skips the characters of an occurrence already replaced. -/
  go (n : Char) (ns : List Char) : Nat → List Char → List Char
    | _, [] => []
    | skip + 1, _ :: rest => go n ns skip rest
    | 0, c :: rest =>
      if (after? (n :: ns) (c :: rest)).isSome then new ++ go n ns ns.length rest
      else c :: go n ns 0 rest

end Lineage.Chars

namespace Lineage.Text

/-- The lines of a text. -/
def lines (s : String) : List String :=
  (Chars.lines s.toList).map String.ofList

/-- Lines with a line feed between them. -/
def unlines (ls : List String) : String :=
  "\n".intercalate ls

/-- The pieces between the occurrences of a separator. -/
def split (sep : Char) (s : String) : List String :=
  (Chars.split sep s.toList).map String.ofList

/-- Splits at the first separators only, into at most `n` pieces. -/
def splitUpTo (sep : Char) (n : Nat) (s : String) : List String :=
  (Chars.splitUpTo sep n s.toList).map String.ofList

/-- What follows a text that must come first. -/
def after? (first s : String) : Option String :=
  (Chars.after? first.toList s.toList).map String.ofList

/-- What precedes a text that must come last. -/
def before? (last s : String) : Option String :=
  (Chars.before? last.toList s.toList).map String.ofList

/-- Whether a text starts with another. -/
def startsWith (first s : String) : Bool :=
  (Chars.after? first.toList s.toList).isSome

/-- The text without one of its characters. -/
def without (c : Char) (s : String) : String :=
  .ofList (s.toList.filter (· != c))

/-- The text with one character exchanged for another. -/
def exchange (old new : Char) (s : String) : String :=
  .ofList (s.toList.map fun c => if c = old then new else c)

/-- Replaces each occurrence of `needle`, from the left and without
overlap. -/
def replace (needle new s : String) : String :=
  .ofList (Chars.replace needle.toList new.toList s.toList)

/-- Letters A to Z in lower case, all else unchanged. -/
def asciiLower (s : String) : String :=
  .ofList (s.toList.map Char.toLower)

end Lineage.Text
