import Lineage.Formula.Basic
import Lineage.Formula.Quoted
import Lineage.Formula.Scope
import Lineage.Text.Property

/-!
# References in texts

A dollar sign followed by word characters refers to a variable, an at sign
followed by word characters, colons and points to something the caller knows.
A text is first cut into plain characters and references; substitution then
replaces the references, so that nothing in a substituted value is taken for a
reference.
-/

namespace Lineage

/-- A part of a text: a character that stands for itself, or a reference by
name. -/
inductive Piece where
  | plain (c : Char)
  | name (n : List Char)
deriving DecidableEq, Repr

namespace Piece

/-- The longest run of plain name characters at the start, and the pieces
behind it. -/
def spanName (inName : Char → Bool) : List Piece → List Char × List Piece
  | plain c :: rest =>
    if inName c then
      let (n, behind) := spanName inName rest
      (c :: n, behind)
    else ([], plain c :: rest)
  | pieces => ([], pieces)

/-- Cuts a text into pieces: `mark` starts a name of as many characters as
possible; without a name behind it it stands for itself. The mark itself must
not be a name character. -/
def ofChars (mark : Char) (inName : Char → Bool) : List Char → List Piece
  | [] => []
  | c :: rest =>
    let pieces := ofChars mark inName rest
    if c = mark then
      match spanName inName pieces with
      | ([], _) => plain c :: pieces
      | (n, behind) => name n :: behind
    else plain c :: pieces

/-- The names that are referred to, in order. -/
def names (pieces : List Piece) : List String :=
  pieces.filterMap fun
    | plain _ => none
    | name n => some (.ofList n)

/-- The text with a value in the place of each name. -/
def fill (value : String → String) (pieces : List Piece) : String :=
  String.join (pieces.map fun
    | plain c => String.singleton c
    | name n => value (.ofList n))

end Piece

namespace Substitution

/-- The pieces of a text with references to variables. -/
def variablePieces (s : String) : List Piece :=
  Piece.ofChars '$' Chars.isWord s.toList

/-- Whether a character belongs to the name behind an at sign. -/
def isTokenChar (c : Char) : Bool :=
  Chars.isWord c || c == ':' || c == '.'

/-- The pieces of a text with references behind at signs. -/
def tokenPieces (s : String) : List Piece :=
  Piece.ofChars '@' isTokenChar s.toList

/-- Replaces every variable by its value. The first variable without a value
is an error. -/
def strict (scope : Scope) (s : String) : Except FormulaError String :=
  let pieces := variablePieces s
  match (Piece.names pieces).find? fun name => !scope.contains name with
  | some name => .error (.undefinedVariable name)
  | none => .ok (Piece.fill (fun name => (scope.get? name).getD "") pieces)

/-- Replaces every variable by its value as a literal in single quotes. -/
def strictQuoted (scope : Scope) (s : String) : Except FormulaError String :=
  let pieces := variablePieces s
  match (Piece.names pieces).find? fun name => !scope.contains name with
  | some name => .error (.undefinedVariable name)
  | none =>
    .ok (Piece.fill (fun name => Formula.singleQuoted ((scope.get? name).getD "")) pieces)

/-- Replaces every variable by its value, and one without a value by the empty
text. -/
def lenient (scope : Scope) (s : String) : String :=
  Piece.fill (fun name => (scope.get? name).getD "") (variablePieces s)

/-- The variable that a text refers to when it consists of the reference
alone. -/
def onlyVariable? (s : String) : Option String :=
  match variablePieces s with
  | [.name n] => some (.ofList n)
  | _ => none

/-- The first variable that a text refers to. -/
def firstVariable? (s : String) : Option String :=
  (Piece.names (variablePieces s)).head?

/-- The first at sign with word characters behind it: the word. -/
def firstReference? (s : String) : Option String :=
  (Piece.names (Piece.ofChars '@' Chars.isWord s.toList)).head?

/-- Replaces every reference behind an at sign by what `resolve` gives. -/
def tokens (resolve : String → String) (s : String) : String :=
  Piece.fill resolve (tokenPieces s)

end Substitution

end Lineage
