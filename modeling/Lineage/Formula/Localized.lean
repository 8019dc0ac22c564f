import Lineage.Decimal.Whole
import Lineage.Text.Split

/-!
# Calls for localized text

The value of an assignment may be a literal call that asks for a number or a
message in the language of the reader.
-/

namespace Lineage

/-- A call for localized text. -/
inductive LocalizedCall where
  | number (n : Int)
  | translate (message : String)
  | translateInContext (context message : String)
deriving DecidableEq, Repr

namespace LocalizedCall

/-- The number that a text starts with, between blanks and quotes; 0 when
there is none or when it does not fit 64 bits. -/
def leadingInteger (cs : List Char) : Int :=
  let cs := Chars.stripWhile (fun c => c == '\'' || c == '"') (Chars.trim cs)
  let (sign, rest) :=
    match cs with
    | c :: rest => if c = '-' ∨ c = '+' then ([c], rest) else ([], cs)
    | [] => ([], [])
  (Decimal.integer? 64 (sign ++ rest.takeWhile Char.isDigit)).getD 0

/-- What stands between a start and an end: at least one character, and no
line feed. -/
def between? (first last : String) (s : String) : Option (List Char) := do
  let rest ← Chars.after? first.toList s.toList
  let inner ← Chars.before? last.toList rest
  if inner.isEmpty || inner.contains '\n' then none else some inner

/-- A comma, spaces and a quote, with something behind them. -/
def separator? (cs : List Char) : Option (List Char) :=
  match cs with
  | '\'' :: ',' :: rest =>
    match rest.dropWhile (· == ' ') with
    | '\'' :: d :: more => some (d :: more)
    | _ => none
  | _ => none

/-- Splits at the last separator with something in front of it: gives what
stands before and behind it. -/
def splitLast? : List Char → Option (List Char × List Char)
  | [] => none
  | c :: rest =>
    match splitLast? rest with
    | some (before, after) => some (c :: before, after)
    | none => (separator? rest).map fun after => ([c], after)

/-- Reads a value that is a call for localized text. -/
def parse? (value : String) : Option LocalizedCall :=
  match between? "I18N::number(" ")" value with
  | some inner => some (.number (leadingInteger inner))
  | none =>
    match (between? "I18N::translateContext('" "')" value).bind splitLast? with
    | some (context, message) => some (.translateInContext (.ofList context) (.ofList message))
    | none => (between? "I18N::translate('" "')" value).map fun message =>
        .translate (.ofList message)

end LocalizedCall

end Lineage
