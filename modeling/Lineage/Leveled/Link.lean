import Lineage.Leveled.Line
import Lineage.Text.Property

/-!
# Cross-references and values in the text of a record

A report looks at the text that is active at the moment, which may be a whole
record or a part of one. The searches of this module find a cross-reference or
a value in such a text by what stands in front of it on its line, wherever in
the text that is.
-/

namespace Lineage.Leveled

/-- What stands in front of the next at sign, if it is at least one character
and there is no line break in it. -/
def beforeMark? : List Char → Option (List Char)
  | [] => none
  | c :: rest =>
    match Chars.cut? '@' rest with
    | none => none
    | some (before, _) => if (c :: before).contains '\n' then none else some (c :: before)

/-- The cross-reference of the first record header in a text. -/
def activeXref? (text : String) : Option String :=
  (Chars.firstSuffix? (fun cs => (Chars.after? "0 @".toList cs).bind beforeMark?) text.toList).map
    String.ofList

/-- What follows a level digit and a tag on a line. -/
def afterTag? (tag : String) : List Char → Option (List Char)
  | [] => none
  | digit :: rest =>
    if Chars.isDecimal digit then Chars.after? (" " ++ tag ++ " ").toList rest else none

/-- The first media record that a text links to. -/
def mediaXref? (text : String) : Option String :=
  (Chars.firstSuffix?
    (fun cs => do beforeMark? (← Chars.after? ['@'] (← afterTag? "OBJE" cs))) text.toList).map
    String.ofList

/-- The first value of a tag in a text, without blanks around it and without
at signs. -/
def firstValue? (tag text : String) : Option String :=
  (Chars.firstSuffix? (fun cs => do
    let line := Chars.restOfLine (← afterTag? tag cs)
    if line.isEmpty then none else some line) text.toList).map
    fun line => .ofList ((Chars.trim line).filter (· != '@'))

/-- The cross-reference that a text starts with behind a level digit and a
word. -/
def leadingXref? (text : String) : Option String :=
  match text.toList with
  | digit :: ' ' :: rest =>
    if Chars.isDecimal digit then do
      let tag := rest.takeWhile (!Chars.isBlank ·)
      let link ← Chars.after? [' ', '@'] (rest.drop tag.length)
      let (xref, _) ← Chars.cut? '@' link
      if tag.isEmpty || xref.isEmpty then none else some (.ofList xref)
    else none
  | _ => none

/-- What stands in front of the last at sign of a line, if it is at least one
character. -/
def beforeLastMark? (line : List Char) : Option (List Char) :=
  match (line.reverse.dropWhile (· != '@')).drop 1 with
  | [] => none
  | before => some before.reverse

/-- What the last ` @` of a line leads to, up to the last at sign; at least
one character stands in front of it. -/
def lastLink? : List Char → Option (List Char)
  | [] => none
  | _ :: rest =>
    match lastLink? rest with
    | some xref => some xref
    | none => (Chars.after? [' ', '@'] rest).bind beforeLastMark?

/-- The cross-reference of a citation: the last one on the first line that has
one behind a digit, a space and a tag. -/
def citedXref? (text : String) : Option String :=
  (Chars.firstSuffix? (fun cs =>
    match cs with
    | digit :: ' ' :: rest => if digit.isDigit then lastLink? (Chars.restOfLine rest) else none
    | _ => none) text.toList).map String.ofList

/-- The first tag behind `1 ` in a text, with the rest of its line. -/
def firstTag? (text : String) : Option (String × String) :=
  (Chars.firstSuffix? (fun cs => do
    let rest ← Chars.after? ['1', ' '] cs
    let tag := rest.takeWhile Chars.isWord
    if tag.isEmpty then none
    else some (tag, Chars.restOfLine (rest.drop tag.length))) text.toList).map
    fun (tag, value) => (.ofList tag, .ofList (Chars.trim value))

/-- The first type of an event or attribute in a text. -/
def firstType? (text : String) : Option String :=
  (Chars.firstSuffix? (fun cs => do
    let line := Chars.restOfLine (← Chars.after? "2 TYPE ".toList cs)
    if line.isEmpty then none else some line) text.toList).map
    fun line => .ofList (Chars.trim line)

/-- How often a text occurs in another, where each occurrence takes the rest
of its line with it. The first characters of the given list are skipped. -/
def occurrences (needle : List Char) : Nat → List Char → Nat
  | _, [] => 0
  | skip + 1, _ :: rest => occurrences needle skip rest
  | 0, c :: rest =>
    match Chars.after? needle (c :: rest) with
    | some behind =>
      1 + occurrences needle (needle.length - 1 + (Chars.restOfLine behind).length) rest
    | none => occurrences needle 0 rest

end Lineage.Leveled
