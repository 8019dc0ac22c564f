import Lineage.Text.CharSet

/-!
# Sets of characters as bytes

The UTF-8 encodings of the characters of a set, as sequences of ranges of
bytes: a sequence stands for all ways to take one byte of each range. The
sequences come in the order of the characters, no two of them with a character
in common, and form a tree by the ranges that they start with.
-/

namespace Lineage

namespace CharSet

/-- A range of bytes. -/
abbrev Bytes := Nat × Nat

/-- The numbers from `first` to `last`, split so that each piece holds all
combinations of a range of leading digits and ranges of the `places` digits to
the base 64 behind. -/
def pieces : Nat → Nat → Nat → List (List Bytes)
  | 0, first, last => [[(first, last)]]
  | places + 1, first, last =>
    let unit := Nat.pow 64 (places + 1)
    let a := first / unit
    let b := last / unit
    let full := List.replicate (places + 1) (0, 63)
    let behind (lead first last : Nat) := (pieces places first last).map ((lead, lead) :: ·)
    if a = b then behind a (first % unit) (last % unit)
    else
      let startsWhole := first % unit = 0
      let endsWhole := last % unit + 1 = unit
      let low := if startsWhole then a else a + 1
      let high := if endsWhole then b + 1 else b
      (if startsWhole then [] else behind a (first % unit) (unit - 1)) ++
        (if low < high then [(low, high - 1) :: full] else []) ++
        (if endsWhole then [] else behind b 0 (last % unit))

/-- The lengths of encodings: the code points that have a length, the number
of bytes behind the first, and the first byte of the smallest of them. -/
def encodings : List (Nat × Nat × Nat × Nat) :=
  [(0, 0x7F, 0, 0), (0x80, 0x7FF, 1, 0xC0), (0x800, 0xFFFF, 2, 0xE0), (0x10000, 0x10FFFF, 3, 0xF0)]

/-- A range of code points as sequences of ranges of bytes, in the order of the
characters. -/
def sequencesOf (range : Nat × Nat) : List (List Bytes) :=
  encodings.flatMap fun (low, high, places, lead) =>
    let first := max range.1 low
    let last := min range.2 high
    if last < first then []
    else (pieces places first last).map fun
      | [] => []
      | (a, b) :: behind => (lead + a, lead + b) :: behind.map fun (a, b) => (0x80 + a, 0x80 + b)

/-- A set of characters as sequences of ranges of bytes. -/
def sequences (s : CharSet) : List (List Bytes) :=
  s.ranges.flatMap sequencesOf

/-- Sequences by their first range: each one that comes first, with the rest of
the sequences that it starts. -/
def byFirst : List (List Bytes) → List (Bytes × List (List Bytes))
  | [] => []
  | [] :: rest => byFirst rest
  | (first :: behind) :: rest =>
    match byFirst rest with
    | (next, tails) :: groups =>
      if first = next then (first, behind :: tails) :: groups
      else (first, [behind]) :: (next, tails) :: groups
    | [] => [(first, [behind])]

/-- The places in the tree of sequences from which there are ways on, each as
the sequences that lead on from it. -/
def forks : Nat → List (List Bytes) → List (List (List Bytes))
  | 0, _ => []
  | depth + 1, sequences =>
    match byFirst sequences with
    | [] => []
    | groups => sequences :: groups.flatMap fun (_, tails) => forks depth tails

end CharSet

end Lineage
