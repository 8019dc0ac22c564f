import Lineage.Text.Case
import Lineage.Text.Hexadecimal
import Lineage.Text.Split

/-!
# Sets of characters

A set of characters is a list of ranges of code points in increasing order, no
two of which overlap or touch. Surrogates are no characters and lie in no
range. Sets are united, intersected and complemented, and closed under changes
of case; each operation gives ranges of the same form, so that two sets with
the same characters are equal.
-/

namespace Lineage

/-- A set of characters, as ranges of code points with their bounds. -/
structure CharSet where
  ranges : List (Nat × Nat)
deriving DecidableEq, Repr

namespace CharSet

/-! ## Ranges -/

/-- The characters from one code point to another, as ranges beside the
surrogates. -/
def span (first last : Nat) : List (Nat × Nat) :=
  [(first, min last 0xD7FF), (max first 0xE000, min last 0x10FFFF)].filter fun (a, b) => a ≤ b

/-- Joins a range with the ranges behind it that overlap or touch it. -/
def joinFrom (first last : Nat) : List (Nat × Nat) → List (Nat × Nat)
  | [] => [(first, last)]
  | (a, b) :: rest =>
    if a ≤ last + 1 then joinFrom first (max last b) rest
    else (first, last) :: joinFrom a b rest

/-- Ranges in the order of their starts, with those that overlap or touch
joined. -/
def joined : List (Nat × Nat) → List (Nat × Nat)
  | [] => []
  | (a, b) :: rest => joinFrom a b rest

/-- The ranges between ranges, from a code point on. -/
def gaps (start : Nat) : List (Nat × Nat) → List (Nat × Nat)
  | [] => span start 0x10FFFF
  | (a, b) :: rest => (if start < a then span start (a - 1) else []) ++ gaps (b + 1) rest

/-- Whether a code point lies in one of the ranges. -/
def covers (n : Nat) : List (Nat × Nat) → Bool
  | [] => false
  | (a, b) :: rest => if n < a then false else n ≤ b || covers n rest

/-! ## Sets -/

/-- Whether a character belongs to a set. -/
def contains (s : CharSet) (c : Char) : Bool :=
  covers c.toNat s.ranges

/-- The set without characters. -/
def empty : CharSet :=
  ⟨[]⟩

/-- The characters with code points between two bounds. -/
def range (first last : Nat) : CharSet :=
  ⟨span first last⟩

/-- The characters between two of them. -/
def between (first last : Char) : CharSet :=
  range first.toNat last.toNat

/-- The set of a single character. -/
def single (c : Char) : CharSet :=
  between c c

/-- The set of all characters. -/
def all : CharSet :=
  range 0 0x10FFFF

/-- The characters of either set. -/
def union (s t : CharSet) : CharSet :=
  ⟨joined (List.merge s.ranges t.ranges fun x y => x.1 ≤ y.1)⟩

/-- The characters of any of several sets. -/
def unions (sets : List CharSet) : CharSet :=
  ⟨joined ((sets.flatMap ranges).mergeSort fun x y => x.1 ≤ y.1)⟩

/-- The characters that do not belong to a set. -/
def complement (s : CharSet) : CharSet :=
  ⟨gaps 0 s.ranges⟩

/-- The characters of both sets. -/
def inter (s t : CharSet) : CharSet :=
  (s.complement.union t.complement).complement

/-- The characters of the first set that do not belong to the second. -/
def without (s t : CharSet) : CharSet :=
  s.inter t.complement

/-- The characters of one of the sets alone. -/
def symmDiff (s t : CharSet) : CharSet :=
  (s.without t).union (t.without s)

/-- Whether all characters of a set are ASCII. -/
def isAscii (s : CharSet) : Bool :=
  s.ranges.all fun (_, b) => b < 128

/-- The character of a set that has no other. -/
def only? (s : CharSet) : Option Char :=
  match s.ranges with
  | [(a, b)] => if a = b then some (Char.ofNat a) else none
  | _ => none

/-! ## Case -/

/-- All pairs of code points that simple case folding makes one of: a letter
and the letter that it is folded to. -/
def foldPairs : List (Nat × Nat) :=
  Chars.foldRuns.flatMap fun r =>
    (List.range ((r.last - r.first) / r.step + 1)).map fun i =>
      let n := r.first + i * r.step
      (n, ((n : Int) + r.offset).toNat)

/-- The characters that differ from one of a set in case alone, the set
included. -/
def anyCase (s : CharSet) : CharSet :=
  let folded := foldPairs.flatMap fun (n, t) => if covers n s.ranges then span t t else []
  let s := unions [s, ⟨folded⟩]
  let unfolded := foldPairs.flatMap fun (n, t) => if covers t s.ranges then span n n else []
  unions [s, ⟨unfolded⟩]

/-- The letters of ASCII that differ from one of a set in case alone, the set
included. -/
def anyAsciiCase (s : CharSet) : CharSet :=
  let letters (first last : Nat) := s.inter (range first last)
  let moved (t : CharSet) (f : Nat → Nat) : CharSet := ⟨t.ranges.map fun (a, b) => (f a, f b)⟩
  unions [s, moved (letters 0x41 0x5A) (· + 32), moved (letters 0x61 0x7A) (· - 32)]

/-! ## Written sets -/

/-- The ranges that a piece of text stands for: a code point in hexadecimal
digits, a range `first-last`, or every `step`-th code point of a range,
`first-last/step`. -/
def rangesOfPiece? (piece : List Char) : Option (List (Nat × Nat)) :=
  match Chars.cut? '-' piece with
  | none => (Chars.hexNumber? piece).map fun n => span n n
  | some (first, rest) => do
    let first ← Chars.hexNumber? first
    match Chars.cut? '/' rest with
    | none => return span first (← Chars.hexNumber? rest)
    | some (last, step) =>
      let last ← Chars.hexNumber? last
      let step ← Chars.hexNumber? step
      return (List.range ((last - first) / step + 1)).flatMap fun i =>
        span (first + i * step) (first + i * step)

/-- The set that is written as pieces with blanks between them, in increasing
order. A piece that cannot be read stands for nothing. -/
def ofText (text : String) : CharSet :=
  ⟨joined ((Chars.words text.toList).flatMap fun piece => (rangesOfPiece? piece).getD [])⟩

end CharSet

end Lineage
