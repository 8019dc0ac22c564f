import Lineage.Pattern.Basic
import Lineage.Text.Sequences

/-!
# The weight of a pattern

How many bytes an automaton for a pattern takes, one that reads the text
forwards and one that reads it backwards. A pattern whose automata would be too
large is refused, so that a count such as `{100000}` cannot make a search
expensive.

An automaton reads the bytes of the UTF-8 encoding. A state takes thirty-two
bytes, a choice four more for each way on and a state that looks at ranges of
bytes eight more for each range. A repetition with a count holds its pattern as
many times as it may occur.
-/

namespace Lineage

/-! ## Automata that read backwards -/

/-- How much of an automaton has been laid out: its states, and the bytes that
they take beyond thirty-two each. -/
structure Extent where
  states : Nat
  extra : Nat
deriving DecidableEq, Repr

namespace Extent

/-- The most bytes that an automaton may take: ten mebibytes. -/
def limit : Nat :=
  10485760

/-- The number of bytes laid out. -/
def bytes (e : Extent) : Nat :=
  32 * e.states + e.extra

/-- More states, with bytes of their own. -/
def more (states extra : Nat) (e : Extent) : Extent :=
  ⟨e.states + states, e.extra + extra⟩

/-- Lays out something a number of times, and stops where it gets too much. -/
def again (lay : Extent → Extent) : Nat → Extent → Extent
  | 0, e => e
  | n + 1, e => if limit < e.bytes then e else again lay n (lay e)

end Extent

/-- The states that have been laid out for a set of characters: how many there
are in the automaton, and a table that tells for a state and a range of bytes
which state leads there. A slot of the table holds one entry, the latest. -/
structure Trail where
  states : Nat
  slots : Array (Option ((Nat × Nat × Nat) × Nat))

namespace Trail

/-- The number of slots of the table. -/
def width : Nat :=
  1000

/-- The slot of a state and a range of bytes: a hash of the three numbers. -/
def slot (key : Nat × Nat × Nat) : Nat :=
  let mixed (h : UInt64) (n : Nat) : UInt64 := (h ^^^ n.toUInt64) * 1099511628211
  (mixed (mixed (mixed 14695981039346656037 key.1) key.2.1) key.2.2).toNat % width

/-- The state that the table has for a state and a range of bytes. -/
def find? (trail : Trail) (key : Nat × Nat × Nat) : Option Nat :=
  match trail.slots[slot key]? with
  | some (some (known, state)) => if known = key then some state else none
  | _ => none

/-- Lays out a new state for a state and a range of bytes. -/
def add (trail : Trail) (key : Nat × Nat × Nat) : Trail :=
  ⟨trail.states + 1, trail.slots.setIfInBounds (slot key) (some (key, trail.states))⟩

/-- Lays out a sequence of ranges of bytes, of which the first one leads to the
state `next`. -/
def sequence (trail : Trail) (next : Nat) : List CharSet.Bytes → Trail
  | [] => trail
  | range :: rest =>
    match trail.find? (next, range.1, range.2) with
    | some state => trail.sequence state rest
    | none => (trail.add (next, range.1, range.2)).sequence trail.states rest

end Trail

/-- The number of bytes that encode a character. -/
def CharSet.encodedLength (c : Char) : Nat :=
  if c.toNat < 0x80 then 1 else if c.toNat < 0x800 then 2 else if c.toNat < 0x10000 then 3 else 4

/-- Lays out a set of characters. A single one is a sequence of bytes, and sets
within ASCII take a single choice. -/
def Extent.set (s : CharSet) (e : Extent) : Extent :=
  match s.only? with
  | some c => e.more (CharSet.encodedLength c) 0
  | none =>
    if s.isAscii then e.more 2 (8 * s.ranges.length)
    else
      let sequences := s.sequences
      let start : Trail := ⟨e.states + 2, Array.replicate Trail.width none⟩
      let trail := sequences.foldl (fun trail ranges => trail.sequence (e.states + 1) ranges) start
      ⟨trail.states, e.extra + 4 * sequences.length⟩

namespace Pattern

/-- Whether a pattern never matches the empty text. -/
def consumes : Pattern → Bool
  | nothing | .at _ => false
  | oneOf set => !set.ranges.isEmpty
  | seq a b => a.consumes || b.consumes
  | either a b => a.consumes && b.consumes
  | repeated p least _ => 0 < least && p.consumes
  | group p => p.consumes

/-- Whether a pattern is a choice between alternatives. -/
def isChoice : Pattern → Bool
  | either _ _ => true
  | _ => false

/-- Lays out an automaton that reads backwards. -/
def laidOut : Pattern → Extent → Extent
  | nothing, e | .at _, e => e.more 1 0
  | oneOf set, e => e.set set
  | seq a b, e => a.laidOut (b.laidOut e)
  | either a b, e =>
    let e := b.laidOut (a.laidOut e)
    if a.isChoice then e.more 0 4 else e.more 2 8
  | group p, e => p.laidOut e
  | repeated p least most, e =>
    match least, most with
    | 0, none => if p.consumes then p.laidOut (e.more 1 8) else (p.laidOut e).more 3 16
    | 0, some 1 => (p.laidOut (e.more 1 8)).more 1 0
    | least, none => (Extent.again p.laidOut least e).more 1 8
    | least, some most =>
      let e := if least = 0 then e.more 1 0 else Extent.again p.laidOut least e
      if least = most then e
      else Extent.again (fun e => p.laidOut (e.more 1 8)) (most - least) (e.more 1 0)

/-- The bytes of an automaton that reads backwards. A text may end behind the
match, which takes three states. -/
def backwardWeight (p : Pattern) : Nat :=
  ((p.laidOut ⟨3, 16⟩).more 1 0).bytes

/-! ## Automata that read forwards -/

end Pattern

/-- The bytes of a set of characters in an automaton that reads forwards. Places
in the tree of sequences from which the same sequences lead on become one
state. -/
def CharSet.forwardWeight (s : CharSet) : Nat :=
  match s.only? with
  | some c => 32 * encodedLength c
  | none =>
    if s.isAscii then 64 + 8 * s.ranges.length
    else
      let states := (forks 4 s.sequences).eraseDups
      states.foldl (fun n tails => n + 32 + 8 * (byFirst tails).length) 32

namespace Pattern

/-- The number of alternatives that a pattern is made of. -/
def ways : Pattern → Nat
  | either a b => a.ways + b.ways
  | _ => 1

/-- The bytes of the choice between the alternatives of a pattern. -/
def choiceWeight (p : Pattern) : Nat :=
  if p.ways = 1 then 0 else 64 + 4 * p.ways

/-- The bytes of a repetition of a pattern that takes `w` bytes. -/
def repeatedWeight (consumes : Bool) (w : Nat) (least : Nat) (most : Option Nat) : Nat :=
  match least, most with
  | 0, none => if consumes then 40 + w else 112 + w
  | 0, some 1 => 72 + w
  | least, none => 40 + least * w
  | least, some most =>
    if least = most then least * w
    else (if least = 0 then 32 else least * w) + 32 + (most - least) * (40 + w)

/-- The bytes of a pattern without the choice between its alternatives. -/
def partsWeight : Pattern → Nat
  | nothing | .at _ => 32
  | oneOf set => set.forwardWeight
  | seq a b => a.choiceWeight + a.partsWeight + (b.choiceWeight + b.partsWeight)
  | either a b => a.partsWeight + b.partsWeight
  | repeated p least most => repeatedWeight p.consumes (p.choiceWeight + p.partsWeight) least most
  | group p => 64 + (p.choiceWeight + p.partsWeight)

/-- The bytes of an automaton that reads forwards. A text may start before the
match, whose start and end are marked. -/
def forwardWeight (p : Pattern) : Nat :=
  208 + (p.choiceWeight + p.partsWeight)

/-- Whether the automata for a pattern are small enough. -/
def isLight (p : Pattern) : Bool :=
  p.forwardWeight ≤ Extent.limit && p.backwardWeight ≤ Extent.limit

end Pattern

end Lineage
