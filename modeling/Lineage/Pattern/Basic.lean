import Lineage.Text.CharSet

/-!
# Patterns

Regular expressions over characters. A pattern is read as a function on sets
of positions in a text: from the positions at which it may start to those at
which it may end. A set of positions is a list of marks, one for each position
from the start of the text to its end, so a text of `n` characters has `n + 1`
of them. A pattern occurs in a text when some start leads to some end.

Patterns are built by functions that simplify as they build: empty parts are
left out of sequences, alternatives of single characters become one set, and a
repetition that says nothing disappears.
-/

namespace Lineage

/-- How a position may lie to the words around it. The halves look at one side
of the position only. -/
inductive WordEdge where
  | boundary
  | inside
  | start
  | stop
  | startHalf
  | stopHalf
deriving DecidableEq, Repr

/-- Whether a position lies so to words: a word character may stand before it
and after it. -/
def WordEdge.holds (before after : Bool) : WordEdge → Bool
  | boundary => before != after
  | inside => before == after
  | start => !before && after
  | stop => before && !after
  | startHalf => !before
  | stopHalf => !after

/-- A condition on a position in a text. Where carriage returns break lines,
one with a line feed behind it makes one line break together with it. -/
inductive Anchor where
  | textStart
  | textEnd
  | lineStart (returns : Bool)
  | lineEnd (returns : Bool)
  | word (edge : WordEdge) (ascii : Bool)
deriving DecidableEq, Repr

/-- Whether a character is a word character, of ASCII alone if asked for. -/
def Anchor.isWord (ascii : Bool) (c : Char) : Bool :=
  (!ascii || c.toNat < 128) && Chars.isWord c

/-- Whether a position between two characters satisfies a condition; at the
ends of a text one of them is missing. -/
def Anchor.holds (anchor : Anchor) (before after : Option Char) : Bool :=
  match anchor with
  | textStart => before.isNone
  | textEnd => after.isNone
  | lineStart false => before.all (· == '\n')
  | lineEnd false => after.all (· == '\n')
  | lineStart true => before.all fun c => c == '\n' || (c == '\r' && after != some '\n')
  | lineEnd true => after.all fun c => c == '\r' || (c == '\n' && before != some '\r')
  | word edge ascii => edge.holds (before.any (isWord ascii)) (after.any (isWord ascii))

/-- A regular expression. A group marks a part of a pattern and changes
nothing about where it occurs. -/
inductive Pattern where
  | nothing
  | oneOf (set : CharSet)
  | at (anchor : Anchor)
  | seq (first second : Pattern)
  | either (a b : Pattern)
  | repeated (p : Pattern) (least : Nat) (most : Option Nat)
  | group (p : Pattern)
deriving DecidableEq, Repr

namespace Pattern

/-! ## Building -/

/-- Whether a pattern can match nothing but the empty text. -/
def isEmptyOnly : Pattern → Bool
  | nothing | .at _ => true
  | oneOf _ => false
  | seq a b => a.isEmptyOnly && b.isEmptyOnly
  | either a b => a.isEmptyOnly && b.isEmptyOnly
  | repeated p _ most => most == some 0 || p.isEmptyOnly
  | group p => p.isEmptyOnly

/-- One pattern after another. -/
def followedBy (first second : Pattern) : Pattern :=
  if first = nothing then second
  else if second = nothing then first
  else seq first second

/-- Patterns one after the other. -/
def sequence (ps : List Pattern) : Pattern :=
  ps.foldr followedBy nothing

/-- The set of a pattern for one character. -/
def set? : Pattern → Option CharSet
  | oneOf set => some set
  | _ => none

/-- The alternatives that a pattern is made of. -/
def branches : Pattern → List Pattern
  | either a b => a.branches ++ b.branches
  | p => [p]

/-- Any of several patterns; without one, a pattern that never matches. -/
def alternatives (ps : List Pattern) : Pattern :=
  match ps.mapM set?, ps.flatMap branches with
  | some sets, _ => oneOf (.unions sets)
  | none, [] => oneOf .empty
  | none, p :: rest => rest.foldl either p

/-- A pattern several times in a row. Matching the empty text more than once
adds nothing, so that a pattern for nothing else is not repeated. -/
def times (p : Pattern) (least : Nat) (most : Option Nat) : Pattern :=
  let (least, most) :=
    if p.isEmptyOnly then (min least 1, some ((most.map (min 1)).getD 1)) else (least, most)
  if most = some 0 then nothing
  else if least = 1 ∧ most = some 1 then p
  else repeated p least most

/-! ## Matching -/

/-- Whether each position of a text that `before` precedes satisfies a
condition. -/
def anchored (anchor : Anchor) : Option Char → List Char → List Bool
  | before, [] => [anchor.holds before none]
  | before, c :: rest => anchor.holds before (some c) :: anchored anchor (some c) rest

/-- The positions of both sets. -/
def union (a b : List Bool) : List Bool :=
  List.zipWith (· || ·) a b

/-- The positions of the first set that are not in the second. -/
def without (a b : List Bool) : List Bool :=
  List.zipWith (fun x y => x && !y) a b

/-- Applies a function a number of times, or until nothing changes any
more. -/
def iterate (f : List Bool → List Bool) : Nat → List Bool → List Bool
  | 0, marks => marks
  | n + 1, marks =>
    let next := f marks
    if next = marks then marks else iterate f n next

/-- The positions reached by applying a function up to a number of times.
`fresh` holds those from which it has not been applied yet. -/
def reach (f : List Bool → List Bool) : Nat → List Bool → List Bool → List Bool
  | 0, marks, _ => marks
  | n + 1, marks, fresh =>
    let more := without (f fresh) marks
    if more.any id then reach f n (union marks more) more else marks

/-- The positions reached over any number of characters of a set; `carried`
says whether the first one is reached from before. -/
def spread (set : CharSet) (carried : Bool) : List Bool → List Char → List Bool
  | mark :: marks, c :: rest =>
    let here := carried || mark
    here :: spread set (here && set.contains c) marks rest
  | marks, _ => marks.map (carried || ·)

/-- Whether repeating a pattern adds nothing to it: it is a repetition
without bound itself. -/
def isClosed : Pattern → Bool
  | repeated _ least none => least ≤ 1
  | group p => p.isClosed
  | _ => false

/-- The positions at which a pattern may end when it starts at one of the
marked positions. Beyond as many rounds as there are positions, a repetition
reaches nothing new. -/
def ends (text : List Char) : Pattern → List Bool → List Bool
  | nothing, marks => marks
  | oneOf set, marks => false :: List.zipWith (fun mark c => mark && set.contains c) marks text
  | .at anchor, marks => List.zipWith (· && ·) marks (anchored anchor none text)
  | seq first second, marks => ends text second (ends text first marks)
  | either a b, marks => union (ends text a marks) (ends text b marks)
  | repeated p least most, marks =>
    let start := iterate (ends text p) least marks
    match p, most with
    | oneOf set, none => spread set false start text
    | _, _ =>
      if p.isClosed ∧ 0 < least then start
      else
        let rounds := if p.isClosed then 1 else marks.length
        reach (ends text p) (((most.map (· - least)).getD rounds).min rounds) start start
  | group p, marks => ends text p marks

/-- Whether a pattern occurs in a text. -/
def occursIn (p : Pattern) (text : List Char) : Bool :=
  (ends text p (List.replicate (text.length + 1) true)).any id

end Pattern

end Lineage
