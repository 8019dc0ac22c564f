import Lineage.Decimal.Whole
import Lineage.Pattern.Class
import Lineage.Pattern.Weight
import Lineage.Text.Split

/-!
# The notation of patterns

Reading a pattern from its usual notation: alternatives, groups, repetitions,
classes, anchors and escapes. Groups may set flags for themselves or for the
rest of the group around them. A text that is no pattern is refused as a whole,
and so is one that nests too deeply or stands for a pattern that is too large.
-/

namespace Lineage

/-- A part of a pattern as it is read: what it means, how deeply its notation
nests, and the names of the groups in it. -/
structure PatternPart where
  pattern : Pattern := .nothing
  depth : Nat := 0
  names : List (List Char) := []
deriving DecidableEq, Repr

namespace PatternPart

/-! ## Putting parts together -/

/-- Several parts put together, which nest one level deeper than each of them;
one part stays as it is. -/
def joined (build : List Pattern → Pattern) : List PatternPart → PatternPart
  | [part] => part
  | parts =>
    { pattern := build (parts.map pattern)
      depth := 1 + parts.foldl (fun deepest part => max deepest part.depth) 0
      names := parts.flatMap names }

/-- Parts one after the other, last one first. -/
def sequence (last : List PatternPart) : PatternPart :=
  if last.isEmpty then {} else joined Pattern.sequence last.reverse

/-- Alternatives, last one first. -/
def alternatives (last : List PatternPart) : PatternPart :=
  joined Pattern.alternatives last.reverse

/-- A part several times in a row. -/
def times (part : PatternPart) (least : Nat) (most : Option Nat) : PatternPart :=
  { part with pattern := part.pattern.times least most, depth := part.depth + 1 }

/-! ## Repetition -/

/-- A number, with blanks around it, and what follows. -/
def number? (flags : PatternFlags) (cs : List Char) : Option (Nat × List Char) := do
  let (digits, rest) := digits cs.length (Chars.trimStart cs)
  return (← Decimal.natural? 32 digits, Chars.trimStart (flags.skip rest))
where
  /-- The digits at the start of a text, blanks left out, and what follows. -/
  digits (fuel : Nat) (cs : List Char) : List Char × List Char :=
    match fuel, cs with
    | fuel + 1, c :: rest =>
      if c.isDigit then
        let (more, rest) := digits fuel (flags.skip rest)
        (c :: more, rest)
      else ([], cs)
    | _, cs => ([], cs)

/-- The bounds of a counted repetition behind its opening brace, and what
follows its closing one: `n`, `n,` or `n,m`. -/
def bounds? (flags : PatternFlags) (cs : List Char) :
    Option ((Nat × Option Nat) × List Char) := do
  let (least, rest) ← number? flags (flags.skip cs)
  match rest with
  | '\x7d' :: rest => return ((least, some least), rest)
  | ',' :: rest =>
    match flags.skip rest with
    | '\x7d' :: rest => return ((least, none), rest)
    | rest =>
      let (most, rest) ← number? flags rest
      let rest ← Chars.after? ['\x7d'] rest
      if least ≤ most then return ((least, some most), rest) else none
  | _ => none

/-- What follows a question mark, which behind a repetition makes it take as
little as possible. That does not change where the pattern occurs. -/
def afterLazy (cs : List Char) : List Char :=
  (Chars.after? ['?'] cs).getD cs

/-- The repetition at the start of a text, and what follows it. -/
def repetition? (flags : PatternFlags) :
    List Char → Option (Option ((Nat × Option Nat) × List Char))
  | '*' :: rest => some (some ((0, none), afterLazy rest))
  | '+' :: rest => some (some ((1, none), afterLazy rest))
  | '?' :: rest => some (some ((0, some 1), afterLazy rest))
  | '\x7b' :: rest => do
    let (bounds, rest) ← bounds? flags rest
    return some (bounds, afterLazy (flags.skip rest))
  | _ => some none

/-- A part with the repetitions written behind it, and what follows them. -/
def repetitions? (flags : PatternFlags) (fuel : Nat) (part : PatternPart) (cs : List Char) :
    Option (PatternPart × List Char) :=
  match fuel with
  | 0 => none
  | fuel + 1 => do
    match ← repetition? flags (flags.skip cs) with
    | none => return (part, cs)
    | some ((least, most), rest) => repetitions? flags fuel (part.times least most) rest

/-! ## Items -/

/-- A single item other than a group, and what follows: a class, an anchor, an
escape or a character. -/
def item? (flags : PatternFlags) : List Char → Option (PatternPart × List Char)
  | [] | '*' :: _ | '+' :: _ | '?' :: _ | '\x7b' :: _ => none
  | '.' :: rest => do return ({ pattern := .oneOf (← flags.dot?) }, rest)
  | '^' :: rest => some ({ pattern := .at flags.startAnchor }, rest)
  | '$' :: rest => some ({ pattern := .at flags.endAnchor }, rest)
  | '[' :: rest => do
    let (part, rest) ← flags.class? rest
    return ({ pattern := .oneOf part.set, depth := part.depth }, rest)
  | '\\' :: rest => do
    let (escape, rest) ← Escape.ofChars? flags rest
    let pattern : Pattern := match escape with
      | .char c => .oneOf (flags.forms c)
      | .set s => .oneOf s
      | .anchor a => .at a
    return ({ pattern }, rest)
  | c :: rest => some ({ pattern := .oneOf (flags.forms c) }, rest)

/-! ## Groups -/

/-- How a parenthesis opens: a group, which may have a name and is not always
marked, or flags for what is behind. -/
inductive Opening where
  | group (name : Option (List Char))
  | unmarked (flags : PatternFlags)
  | setting (flags : PatternFlags)
deriving DecidableEq, Repr

/-- Whether a text can be the name of a group. -/
def isGroupName (name : List Char) : Bool :=
  match name with
  | [] => false
  | c :: rest =>
    (c == '_' || Chars.isAlphabetic c) &&
      rest.all fun c => c == '_' || c == '.' || c == '[' || c == ']' || Chars.isAlphanumeric c

/-- The opening of a group with a name, and what follows it. -/
def named? (cs : List Char) : Option (Opening × List Char) := do
  let (name, rest) ← Chars.cut? '>' cs
  if isGroupName name then return (.group (some name), rest) else none

/-- What stands behind an opening parenthesis, and what follows it: nothing
special, a name, flags for the group, or flags for what is behind. -/
def opening? (flags : PatternFlags) (cs : List Char) : Option (Opening × List Char) :=
  match flags.skip cs with
  | '?' :: 'P' :: '<' :: rest => named? rest
  | '?' :: '<' :: rest => named? rest
  | '?' :: rest => do
    let letters := rest.takeWhile fun c => c != ':' && c != ')'
    let set ← flags.setAll? letters
    match rest.drop letters.length with
    | ':' :: rest => return (.unmarked set, rest)
    | ')' :: rest => if letters.isEmpty then none else return (.setting set, rest)
    | _ => none
  | cs => some (.group none, cs)

/-- A group with a content. -/
def marked (name : Option (List Char)) (content : PatternPart) : PatternPart :=
  { pattern := .group content.pattern
    depth := content.depth + 1
    names := name.toList ++ content.names }

/-- The content of a group up to its closing parenthesis or the end of the
text, and what follows. `done` holds the alternatives read so far, `last` the
items of the present one, both last one first. -/
def content? (fuel : Nat) (flags : PatternFlags) (done last : List PatternPart)
    (cs : List Char) : Option (PatternPart × List Char) :=
  match fuel with
  | 0 => none
  | fuel + 1 =>
    match flags.skip cs with
    | [] => some (alternatives (sequence last :: done), [])
    | ')' :: rest => some (alternatives (sequence last :: done), ')' :: rest)
    | '|' :: rest => content? fuel flags (sequence last :: done) [] rest
    | '(' :: rest => do
      let (opening, rest) ← opening? flags rest
      let closed? (inner : PatternFlags) (wrap : PatternPart → PatternPart) := do
        let (content, rest) ← content? fuel inner [] [] rest
        let rest ← Chars.after? [')'] rest
        let (part, rest) ← repetitions? flags fuel (wrap content) rest
        content? fuel flags done (part :: last) rest
      match opening with
      | .setting flags => content? fuel flags done ({} :: last) rest
      | .unmarked inner => closed? inner fun content => { content with depth := content.depth + 1 }
      | .group name => closed? flags (marked name)
    | cs => do
      let (part, rest) ← item? flags cs
      let (part, rest) ← repetitions? flags fuel part rest
      content? fuel flags done (part :: last) rest

end PatternPart

namespace Pattern

/-- How deeply the notation of a pattern may nest. -/
def depthLimit : Nat :=
  250

/-- The pattern that a text stands for. The names of groups must differ. -/
def ofChars? (cs : List Char) : Option Pattern := do
  let (part, rest) ← PatternPart.content? (cs.length + 1) {} [] [] cs
  if rest.isEmpty ∧ part.depth ≤ depthLimit ∧ part.names.Nodup ∧ part.pattern.isLight then
    return part.pattern
  else none

/-- The notation of a pattern that matches a text as it is. -/
def literal (cs : List Char) : List Char :=
  cs.flatMap fun c => if isMeta c then ['\\', c] else [c]
where
  /-- Whether a character has a meaning of its own in the notation. -/
  isMeta (c : Char) : Bool :=
    "\\.+*?()|[]\x7b\x7d^$#&-~".toList.contains c

end Pattern

end Lineage
