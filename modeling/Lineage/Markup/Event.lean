import Lineage.Markup.Attribute
import Lineage.Markup.Location

/-!
# Reading markup

A text is read as a sequence of events: opening, self-closed and closing tags,
text, references and literal sections. Comments, declarations and processing
instructions are passed over. Each event has the offset at which its text
starts; a byte order mark in front does not count. Closing tags must match the
tags that are open.
-/

namespace Lineage.Markup

/-- What is wrong with a text. -/
inductive Fault where
  | unclosedTag
  | unclosedComment
  | unclosedLiteral
  | unclosedDoctype
  | unclosedInstruction
  | unknownMarkup
  | mismatchedEnd (expected found : String)
  | unmatchedEnd (name : String)
  | unclosedReference
  | noDoctypeName
deriving DecidableEq, Repr

/-- The text of a fault. -/
def Fault.message : Fault → String
  | unclosedTag => notClosed "tag" ">"
  | unclosedComment => notClosed "comment" "-->"
  | unclosedLiteral => notClosed "CDATA" "]]>"
  | unclosedDoctype => notClosed "DOCTYPE" ">"
  | unclosedInstruction => notClosed "processing instruction or xml declaration" "?>"
  | unknownMarkup => "syntax error: unknown or missed symbol in markup"
  | mismatchedEnd expected found =>
    "ill-formed document: expected `</" ++ expected ++ ">`, but `</" ++ found ++ ">` was found"
  | unmatchedEnd name =>
    "ill-formed document: close tag `</" ++ name ++ ">` does not match any open tag"
  | unclosedReference =>
    "ill-formed document: entity or character reference not closed: `;` not found before end of input"
  | noDoctypeName =>
    "ill-formed document: `<!DOCTYPE>` declaration does not contain a name of a document type"
where
  /-- Something whose end is missing. -/
  notClosed (what mark : String) : String :=
    "syntax error: " ++ what ++ " not closed: `" ++ mark ++ "` not found before end of input"

/-- What is read from a text. -/
inductive Event where
  | opening (name : String) (attributes : List (String × String))
  | selfClosed (name : String) (attributes : List (String × String))
  | closing (name : String)
  | text (s : String)
  | reference (name : String)
  | literal (s : String)
deriving DecidableEq, Repr

/-! ## Where tags and other markup end -/

/-- Splits at the first `>` outside quotes; `quote` is the quote that is open
at the start. -/
def untilClose? (quote : Option Char) : List Char → Option (List Char × List Char)
  | [] => none
  | c :: rest =>
    let next : Option (Option Char) :=
      match quote with
      | some q => some (if c = q then none else some q)
      | none =>
        if c = '>' then none
        else some (if c = '"' ∨ c = '\'' then some c else none)
    match next with
    | none => some ([], rest)
    | some quote => (untilClose? quote rest).map fun (content, rest) => (c :: content, rest)

/-- Splits at the first `>` that has at least `least` characters in front of
it, the last of them being the `mark`. Both `mark` and the characters already
passed are written backwards. -/
def untilMark? (mark : List Char) (least : Nat) (passed : List Char) :
    List Char → Option (List Char × List Char)
  | [] => none
  | c :: rest =>
    if c = '>' ∧ least ≤ passed.length ∧ mark.isPrefixOf passed then some (passed.reverse, rest)
    else untilMark? mark least (c :: passed) rest

/-- Splits at the end of a document type declaration: the first `>` that is
no partner of a `<` before it. Quotes and comments do not matter; `nested`
counts the brackets that are open at the start. -/
def untilDoctypeEnd? (nested : Nat) : List Char → Option (List Char × List Char)
  | [] => none
  | c :: rest =>
    let next : Option Nat :=
      if c = '>' then (if nested = 0 then none else some (nested - 1))
      else if c = '<' then some (nested + 1) else some nested
    match next with
    | none => some ([], rest)
    | some nested => (untilDoctypeEnd? nested rest).map fun (content, rest) => (c :: content, rest)

/-! ## One step -/

/-- How far a text has been read: what is left, its offset, and the names of
the open tags, innermost first. -/
structure Cursor where
  rest : List Char
  offset : Nat
  openNames : List String

/-- The outcome of one step. -/
inductive Step where
  | event (e : Event) (next : Cursor)
  | skipped (next : Cursor)
  | finished
  | failed (fault : Fault)

namespace Cursor

/-- The cursor with only `rest` left to read. -/
def advanceTo (cur : Cursor) (rest : List Char) : Cursor :=
  { cur with
    rest
    offset := cur.offset + (Location.byteLength cur.rest - Location.byteLength rest) }

/-- The name in a closing tag: its content without the space at the end. -/
def closingName (content : List Char) : String :=
  if content.all isSpace then .ofList content else .ofList (Chars.dropEndWhile isSpace content)

/-- Reads a closing tag; `inner` starts behind its slash. -/
def closingTag (cur : Cursor) (inner : List Char) : Step :=
  match untilClose? none inner with
  | none => .failed .unclosedTag
  | some (content, rest) =>
    let found := closingName content
    match cur.openNames with
    | [] => .failed (.unmatchedEnd found)
    | expected :: names =>
      if expected = found then .event (.closing found) { cur.advanceTo rest with openNames := names }
      else .failed (.mismatchedEnd expected found)

/-- Reads an opening or self-closed tag; `inner` starts behind its bracket. -/
def openingTag (cur : Cursor) (inner : List Char) : Step :=
  match untilClose? none inner with
  | none => .failed .unclosedTag
  | some (content, rest) =>
    let next := cur.advanceTo rest
    match Chars.before? ['/'] content with
    | some content => .event (.selfClosed (tagName content) (tagAttributes content)) next
    | none =>
      let name := tagName content
      .event (.opening name (tagAttributes content)) { next with openNames := name :: cur.openNames }

/-- Whether a text starts with another in letters of either case. -/
def startsWithNoCase (first cs : List Char) : Bool :=
  (cs.take first.length).map Char.toUpper == first

/-- Reads what starts with an exclamation mark; `inner` starts with it. The
character behind it tells what it is. -/
def declaration (cur : Cursor) (inner : List Char) : Step :=
  match inner.drop 1 with
  | '-' :: _ =>
    match untilMark? ['-', '-'] 5 [] inner with
    | some (content, rest) =>
      if (Chars.after? "!--".toList content).isSome then .skipped (cur.advanceTo rest)
      else .failed .unclosedComment
    | none => .failed .unclosedComment
  | '[' :: _ =>
    match untilMark? [']', ']'] 0 [] inner with
    | some (content, rest) =>
      match Chars.after? "![CDATA[".toList content with
      | some content =>
        .event (.literal (.ofList (content.take (content.length - 2)))) (cur.advanceTo rest)
      | none => .failed .unclosedLiteral
    | none => .failed .unclosedLiteral
  | c :: _ =>
    if c = 'D' ∨ c = 'd' then
      match untilDoctypeEnd? 0 inner with
      | some (content, rest) =>
        if !startsWithNoCase "!DOCTYPE".toList content then .failed .unclosedDoctype
        else if (content.drop 8).all isSpace then .failed .noDoctypeName
        else .skipped (cur.advanceTo rest)
      | none => .failed .unclosedDoctype
    else .failed .unknownMarkup
  | [] => .failed .unknownMarkup

/-- Reads a processing instruction; `inner` starts with its question mark. -/
def instruction (cur : Cursor) (inner : List Char) : Step :=
  match untilMark? ['?'] 1 [] inner with
  | some (content, rest) =>
    if content.length ≤ 1 then .failed .unclosedInstruction else .skipped (cur.advanceTo rest)
  | none => .failed .unclosedInstruction

/-- Reads a reference; `inner` starts behind the ampersand. -/
def reference (cur : Cursor) (inner : List Char) : Step :=
  let name := inner.takeWhile fun c => c != ';' && c != '&' && c != '<'
  match inner.drop name.length with
  | ';' :: rest => .event (.reference (.ofList name)) (cur.advanceTo rest)
  | _ => .failed .unclosedReference

/-- Reads the next thing. -/
def step (cur : Cursor) : Step :=
  match cur.rest with
  | [] => .finished
  | '<' :: inner =>
    match inner with
    | '/' :: inner => cur.closingTag inner
    | '!' :: _ => cur.declaration inner
    | '?' :: _ => cur.instruction inner
    | [] => .failed .unclosedTag
    | _ => cur.openingTag inner
  | '&' :: inner => cur.reference inner
  | cs =>
    let text := cs.takeWhile fun c => c != '<' && c != '&'
    .event (.text (.ofList text)) (cur.advanceTo (cs.drop text.length))

/-- The cursor at the start of a text, behind a byte order mark. -/
def start (source : String) : Cursor :=
  let cs := source.toList
  ⟨(Chars.after? ['\uFEFF'] cs).getD cs, 0, []⟩

end Cursor

/-! ## Whole texts -/

/-- An event with the offset at which its text starts. -/
structure Placed where
  event : Event
  offset : Nat

/-- Everything that is read from a text: the events, and the fault at which
reading ended, with its offset, if it did not reach the end. -/
structure Reading where
  events : List Placed
  fault : Option (Fault × Nat)

/-- Reads on from a cursor; `fuel` bounds the number of steps. -/
def readFrom : Nat → Cursor → Reading
  | 0, _ => ⟨[], none⟩
  | fuel + 1, cur =>
    match cur.step with
    | .finished => ⟨[], none⟩
    | .failed fault => ⟨[], some (fault, cur.offset)⟩
    | .skipped next => readFrom fuel next
    | .event e next =>
      let reading := readFrom fuel next
      { reading with events := ⟨e, cur.offset⟩ :: reading.events }

/-- Reads a text. Every step reads at least one character. -/
def read (source : String) : Reading :=
  readFrom (source.toList.length + 1) (.start source)

end Lineage.Markup
