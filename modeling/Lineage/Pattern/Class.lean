import Lineage.Pattern.Escape

/-!
# Classes of characters in brackets

A class lists characters, ranges of them, sets given by escapes, classes of
ASCII by name and further classes in brackets. Classes are intersected by
`&&`, subtracted by `--`, and `~~` keeps what lies in one of two alone; these
signs bind less than listing does, and the first one is applied first.

Along with its set, a class has a depth: how many brackets, lists and signs
are nested in its notation.
-/

namespace Lineage

/-- A part of a class in brackets: its set, and how deeply its notation
nests. -/
structure ClassPart where
  set : CharSet
  depth : Nat := 0
deriving DecidableEq, Repr

/-- A sign between classes. -/
inductive ClassSign where
  | both
  | notSecond
  | oneAlone
deriving DecidableEq, Repr

/-- The set that two sets with a sign between them stand for. -/
def ClassSign.apply : ClassSign → CharSet → CharSet → CharSet
  | both => CharSet.inter
  | notSecond => CharSet.without
  | oneAlone => CharSet.symmDiff

namespace ClassPart

/-- Parts listed one after the other, last one first. Several of them nest one
level deeper than each. -/
def listed : List ClassPart → ClassPart
  | [] => { set := .empty }
  | [part] => part
  | parts =>
    { set := .unions (parts.map set)
      depth := 1 + parts.foldl (fun deepest part => max deepest part.depth) 0 }

/-- The class that ends with listed parts, behind a class with a sign if there
is one. -/
def close (flags : PatternFlags) (before : Option (ClassPart × ClassSign))
    (parts : List ClassPart) : ClassPart :=
  let last := listed parts
  match before with
  | none => last
  | some (first, sign) =>
    { set := sign.apply (flags.folded first.set) (flags.folded last.set)
      depth := 1 + max first.depth last.depth }

/-! ## Classes of ASCII -/

/-- The class of ASCII characters with a name. -/
def asciiNamed? (name : List Char) : Option CharSet :=
  match String.ofList name with
  | "alpha" => some (.ofText "41-5A 61-7A")
  | "lower" => some (.ofText "61-7A")
  | "upper" => some (.ofText "41-5A")
  | "digit" => some (.ofText "30-39")
  | "alnum" => some (.ofText "30-39 41-5A 61-7A")
  | "word" => some (.ofText "30-39 41-5A 5F 61-7A")
  | "xdigit" => some (.ofText "30-39 41-46 61-66")
  | "space" => some (.ofText "9-D 20")
  | "blank" => some (.ofText "9 20")
  | "punct" => some (.ofText "21-2F 3A-40 5B-60 7B-7E")
  | "cntrl" => some (.ofText "0-1F 7F")
  | "graph" => some (.ofText "21-7E")
  | "print" => some (.ofText "20-7E")
  | "ascii" => some (.ofText "0-7F")
  | _ => none

/-- A class of ASCII behind its opening bracket, such as `:alpha:]` or
`:^alpha:]`: whether it is negated, its set, and what follows. -/
def ascii? (cs : List Char) : Option (Bool × CharSet × List Char) := do
  let rest ← Chars.after? [':'] cs
  let (negated, rest) := match rest with
    | '^' :: rest => (true, rest)
    | _ => (false, rest)
  let (name, rest) ← Chars.cut? ':' rest
  let rest ← Chars.after? [']'] rest
  return (negated, ← asciiNamed? name, rest)

/-! ## Characters and ranges -/

/-- A single character or an escape, and what follows. -/
def item? (flags : PatternFlags) : List Char → Option (Escape × List Char)
  | [] => none
  | '\\' :: rest => Escape.ofChars? flags rest
  | c :: rest => some (.char c, rest)

/-- The character that comes first behind blanks and a comment sign. If none
does, it is the first character of all. -/
def peek? (flags : PatternFlags) (cs : List Char) : Option Char :=
  if !flags.spaced then cs.head?
  else
    let cs' := Chars.trimStart cs
    let cs' := match cs' with
      | '#' :: rest => Chars.trimStart rest
      | _ => cs'
    cs'.head?.or cs.head?

/-- Whether a character may stand in a class: without the flag `unicode` only
those of ASCII may. -/
def admits (flags : PatternFlags) (c : Char) : Bool :=
  flags.unicode || c.toNat < 128

/-- A character, a range of characters or a set given by an escape, and what
follows. A hyphen makes a range unless a closing bracket or another hyphen
comes behind it. -/
def range? (flags : PatternFlags) (cs : List Char) : Option (CharSet × List Char) := do
  let (first, rest) ← item? flags cs
  let rest := flags.skip rest
  let after? : Option (List Char) := do
    let more ← Chars.after? ['-'] rest
    if peek? flags more = some ']' ∨ peek? flags more = some '-' then none else some more
  match first, after? with
  | .char a, none => if admits flags a then some (.single a, rest) else none
  | .set s, none => some (s, rest)
  | .char a, some more =>
    match ← item? flags (flags.skip more) with
    | (.char b, rest) =>
      if admits flags a ∧ admits flags b ∧ a ≤ b then some (.between a b, rest) else none
    | _ => none
  | _, _ => none

/-! ## Brackets -/

/-- What a class behind its opening bracket starts with: whether it is
negated, the parts that come before all signs, and what follows. Hyphens stand
for themselves here, and so does a closing bracket that comes first. -/
def opening (flags : PatternFlags) (cs : List Char) : Bool × List ClassPart × List Char :=
  let (negated, cs) := match flags.skip cs with
    | '^' :: rest => (true, flags.skip rest)
    | cs => (false, cs)
  match cs with
  | ']' :: rest => (negated, [{ set := .single ']' }], rest)
  | cs =>
    let (parts, rest) := hyphens cs.length cs
    (negated, parts, rest)
where
  /-- The hyphens at the start of a text, and what follows them. -/
  hyphens (fuel : Nat) (cs : List Char) : List ClassPart × List Char :=
    match fuel, cs with
    | fuel + 1, '-' :: rest =>
      let (parts, rest) := hyphens fuel (flags.skip rest)
      ({ set := .single '-' } :: parts, rest)
    | _, cs => ([], cs)

mutual

/-- A class behind its opening bracket, and what follows it. -/
def bracketed? (flags : PatternFlags) (fuel : Nat) (cs : List Char) :
    Option (ClassPart × List Char) :=
  match fuel with
  | 0 => none
  | fuel + 1 => do
    let (negated, parts, rest) := opening flags cs
    let (part, rest) ← parts? flags fuel none parts rest
    let set ← flags.signed? negated (flags.folded part.set)
    return ({ set, depth := part.depth + 1 }, rest)

/-- The parts of a class up to its closing bracket, and what follows it.
`before` is the class before the last sign, `parts` are those listed since,
last one first. -/
def parts? (flags : PatternFlags) (fuel : Nat) (before : Option (ClassPart × ClassSign))
    (parts : List ClassPart) (cs : List Char) : Option (ClassPart × List Char) :=
  match fuel with
  | 0 => none
  | fuel + 1 =>
    match flags.skip cs with
    | [] => none
    | ']' :: rest => some (close flags before parts, rest)
    | '&' :: '&' :: rest =>
      parts? flags fuel (some (close flags before parts, .both)) [] rest
    | '-' :: '-' :: rest =>
      parts? flags fuel (some (close flags before parts, .notSecond)) [] rest
    | '~' :: '~' :: rest =>
      parts? flags fuel (some (close flags before parts, .oneAlone)) [] rest
    | '[' :: rest =>
      match ascii? rest with
      | some (negated, set, rest) => do
        let set ← flags.signed? negated (flags.folded set)
        parts? flags fuel before ({ set } :: parts) rest
      | none => do
        let (part, rest) ← bracketed? flags fuel rest
        parts? flags fuel before (part :: parts) rest
    | cs => do
      let (set, rest) ← range? flags cs
      parts? flags fuel before ({ set } :: parts) rest

end

end ClassPart

/-- The class behind an opening bracket, and what follows it. -/
def PatternFlags.class? (flags : PatternFlags) (cs : List Char) : Option (ClassPart × List Char) :=
  ClassPart.bracketed? flags (2 * cs.length + 2) cs

end Lineage
