import Lineage.Leveled.Block
import Lineage.Text.Property

/-!
# Values along a path of tags

A path such as `BIRT:DATE` leads from a record to a block inside a block. The
walk follows it one tag at a time and then reads the value of the line that it
arrives at, with its continuation lines.
-/

namespace Lineage.Leveled

/-- A place in a record: a block, the tag it was found by and its level. -/
structure Place where
  level : Nat
  tag : String
  text : String

/-- One step along a path, from a place whose `level` is the one that the next
tag is looked for at. Where the path is `relative`, the step may go one level
up; a missing title falls back to the abbreviation; last of all, a line of the
whole record that names the tag after a cross-reference is taken. -/
def Place.step? (record : String) (relative : Bool) (here : Place) (tag : String) :
    Option Place :=
  let find (level : Nat) (tag : String) : Option Place :=
    let text := block level (toString level ++ " " ++ tag) here.text 1
    if text.isEmpty then none else some ⟨level + 1, tag, text⟩
  let level := if (find here.level tag).isNone && relative then here.level - 1 else here.level
  match find level tag with
  | some place => some place
  | none =>
    match if tag = "TITL" then find level "ABBR" else none with
    | some place => some place
    | none =>
      let text := block (level - 1) ("@ " ++ tag) record 1
      if text.isEmpty then none else some ⟨level - 1 + 1, tag, text⟩

/-- Follows a path of tags. -/
def Place.walk? (record : String) (relative : Bool) : Place → List String → Option Place
  | here, [] => some here
  | here, tag :: rest =>
    match here.step? record relative tag with
    | none => none
    | some next => next.walk? record relative rest

/-- What follows the last `@ ` that something follows. -/
def afterLastMark? : List Char → Option (List Char)
  | [] => none
  | c :: rest =>
    match afterLastMark? rest with
    | some found => some found
    | none =>
      match c, rest with
      | '@', ' ' :: d :: more => some (d :: more)
      | _, _ => none

/-- The text behind a cross-reference: on the first line that holds the level,
an `@`, at least one more character and `@ `, what follows the last such
`@ `. -/
def afterReference? (level : Nat) (text : List Char) : Option (List Char) :=
  Chars.firstSuffix? (fun cs => do
    let line ← Chars.after? (toString level ++ " @").toList cs
    afterLastMark? ((Chars.restOfLine line).drop 1)) text

/-- The rest of the first line that holds `@ `, the tag and a space, with
something behind it. -/
def afterMarkedTag? (tag : String) (text : List Char) : Option (List Char) :=
  Chars.firstSuffix? (fun cs => do
    let line ← Chars.after? ("@ " ++ tag ++ " ").toList cs
    let rest := Chars.restOfLine line
    if rest.isEmpty then none else some rest) text

/-- The value on the line that a place was found by. -/
def Place.lineValue? (place : Place) : Option String :=
  let text := place.text.toList
  let direct := (Chars.afterFirst? (toString place.level ++ " " ++ place.tag).toList text).map
    Chars.restOfLine
  ((direct.or (afterReference? place.level text)).or (afterMarkedTag? place.tag text)).map
    fun cs => .ofList (Chars.trim cs)

/-- The cross-reference that a value consists of, as in `@N1@`. -/
def reference? (value : String) : Option String := do
  let rest ← Text.after? "@" value
  let xref ← Text.before? "@" rest
  if xref.isEmpty then none else some xref

/-- The value at a path of tags such as `BIRT:DATE`.

Level 0 stands for one below the record's own level. A note that is only a
cross-reference is replaced by the text that `noteText` knows for it, or else
by the bare reference. The value of a name loses the slashes around the
surname. Where the path leads nowhere the value is empty. -/
def value (path : String) (level : Nat) (record : String) (noteText : String → Option String) :
    String :=
  if record.isEmpty then ""
  else
    let start := if level = 0 then 1 + recordLevel record else level
    match Place.walk? record (level = 0) ⟨start, "", record⟩ (Text.split ':' path) with
    | none => ""
    | some place =>
      let place := { place with level := place.level - 1 }
      match place.lineValue? with
      | none => ""
      | some value =>
        let isNote := place.tag = "NOTE"
        let value :=
          match if isNote then reference? value else none with
          | some xref => (noteText xref).getD xref
          | none => value
        let value :=
          if place.level = 0 ∧ isNote then value
          else value ++ continuation (place.level + 1) place.text
        if path = "NAME" ∨ path = "_MARNM" ∨ path = "_AKA" then Text.without '/' value else value

/-- The first cross-reference behind a level digit and the given tag, anywhere
in a record. -/
def linkedXref? (tag record : String) : Option String :=
  (Chars.firstSuffix? (fun cs =>
    match cs with
    | [] => none
    | digit :: rest =>
      if Chars.isDecimal digit then do
        let link ← Chars.after? (" " ++ tag ++ " @").toList rest
        let (xref, _) ← Chars.cut? '@' link
        if xref.isEmpty then none else some xref
      else none) record.toList).map String.ofList

end Lineage.Leveled
