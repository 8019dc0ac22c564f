import Lineage.Pattern.Flags
import Lineage.Unicode.Name

/-!
# Escapes in patterns

What a backslash and the text behind it stand for: a character, given by a
letter, by its number or as itself; a set of characters; or a condition on a
position.
-/

namespace Lineage

/-- What an escape stands for. -/
inductive Escape where
  | char (c : Char)
  | set (s : CharSet)
  | anchor (a : Anchor)
deriving DecidableEq, Repr

namespace Escape

/-- The character that an escape by a letter stands for. -/
def control? : Char → Option Char
  | 'a' => some '\x07'
  | 'f' => some '\x0c'
  | 't' => some '\t'
  | 'n' => some '\n'
  | 'r' => some '\r'
  | 'v' => some '\x0b'
  | _ => none

/-- Whether a backslash makes a character stand for itself: the characters of
ASCII other than letters, digits and angle brackets. -/
def isOwn (c : Char) : Bool :=
  c.toNat < 128 && !c.isAlphanum && c != '<' && c != '>'

/-! ## Characters by number -/

/-- The next `n` digits of a number, blanks left out, and what follows them. -/
def digits? (flags : PatternFlags) : Nat → List Char → Option (List Char × List Char)
  | 0, cs => some ([], cs)
  | n + 1, cs =>
    match flags.skip cs with
    | [] => none
    | c :: rest => (digits? flags n rest).map fun (digits, rest) => (c :: digits, rest)

/-- How many digits a number has that is not in braces. -/
def width? : Char → Option Nat
  | 'x' => some 2
  | 'u' => some 4
  | 'U' => some 8
  | _ => none

/-- The character whose number stands behind a letter, in braces or in a fixed
number of digits, and what follows. Two digits mean a single byte, which is a
character of its own only within ASCII. -/
def numbered? (flags : PatternFlags) (letter : Char) (cs : List Char) :
    Option (Char × List Char) := do
  let width ← width? letter
  match flags.skip cs with
  | '\x7b' :: rest => do
    let (digits, rest) ← flags.braced? rest
    return (← Chars.hexChar? digits, rest)
  | cs => do
    let (digits, rest) ← digits? flags width cs
    let c ← Chars.hexChar? digits
    if !flags.unicode ∧ width = 2 ∧ 128 ≤ c.toNat then none else return (c, rest)

/-! ## Sets -/

/-- The digits, blanks or word characters that a letter names. -/
def named? (unicode : Bool) (letter : Char) : Option CharSet :=
  match letter, unicode with
  | 'd', true => some (Unicode.Category.set .decimalNumber)
  | 's', true => some Unicode.Property.whiteSpace.set
  | 'w', true => some Unicode.Property.word.set
  | 'd', false => some (.ofText "30-39")
  | 's', false => some (.ofText "9-D 20")
  | 'w', false => some (.ofText "30-39 41-5A 5F 61-7A")
  | _, _ => none

/-- The set that a letter names, or its complement if it is a capital one. -/
def letterSet? (flags : PatternFlags) (letter : Char) : Option (Option CharSet) :=
  (named? flags.unicode letter.toLower).map (flags.signed? letter.isUpper)

/-- The set that a name in braces stands for: a property with a value, written
`property=value` with the sign `=`, `:` or `!=`, or a name by itself. -/
def setOfName? (name : List Char) : Option CharSet :=
  match ((Chars.cutAt? ['!', '='] name).or (Chars.cut? ':' name)).or (Chars.cut? '=' name) with
  | some (property, value) => Unicode.valued? property value
  | none => Unicode.named? name

/-- The set that a property stands for, named by one letter or in braces, and
what follows. A capital `P` stands for the complement. -/
def property? (flags : PatternFlags) (negated : Bool) (cs : List Char) :
    Option (CharSet × List Char) := do
  let (name, rest) ← match flags.skip cs with
    | [] | '\\' :: _ => none
    | '\x7b' :: rest => flags.braced? rest
    | c :: rest => some ([c], rest)
  if !flags.unicode then none
  else
    let set ← setOfName? name
    return (← flags.signed? negated (flags.folded set), rest)

/-! ## Positions -/

/-- The positions around words with a name. -/
def wordEdge? (name : List Char) : Option WordEdge :=
  match String.ofList name with
  | "start" => some .start
  | "end" => some .stop
  | "start-half" => some .startHalf
  | "end-half" => some .stopHalf
  | _ => none

/-- The position that `\b` stands for, and what follows. A name may follow in
braces; other braces are not part of the escape. -/
def wordAnchor? (flags : PatternFlags) (cs : List Char) : Option (Anchor × List Char) :=
  let anchor (edge : WordEdge) : Anchor := .word edge !flags.unicode
  match cs with
  | '\x7b' :: rest =>
    match flags.skip rest with
    | [] => none
    | c :: _ =>
      if c.isAlpha ∨ c = '-' then do
        let (name, rest) ← flags.braced? rest
        return (anchor (← wordEdge? name), rest)
      else some (anchor .boundary, cs)
  | _ => some (anchor .boundary, cs)

/-- The position that an escape by a letter stands for, and what follows. -/
def anchor? (flags : PatternFlags) (letter : Char) (cs : List Char) :
    Option (Anchor × List Char) :=
  match letter with
  | 'A' => some (.textStart, cs)
  | 'z' => some (.textEnd, cs)
  | 'b' => wordAnchor? flags cs
  | 'B' => some (.word .inside !flags.unicode, cs)
  | '<' => some (.word .start !flags.unicode, cs)
  | '>' => some (.word .stop !flags.unicode, cs)
  | _ => none

/-! ## Reading -/

/-- What an escape behind its backslash stands for, and what follows. -/
def ofChars? (flags : PatternFlags) : List Char → Option (Escape × List Char)
  | [] => none
  | c :: rest =>
    if isOwn c then some (char c, rest)
    else if c = 'p' ∨ c = 'P' then
      (property? flags (c = 'P') rest).map fun (s, rest) => (set s, rest)
    else
      match control? c, letterSet? flags c with
      | some control, _ => some (char control, rest)
      | none, some s => s.map fun s => (set s, rest)
      | none, none =>
        ((numbered? flags c rest).map fun (c, rest) => (char c, rest)).or
          ((anchor? flags c rest).map fun (a, rest) => (anchor a, rest))

end Escape

end Lineage
