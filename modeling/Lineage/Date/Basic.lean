import Lineage.Date.Calendar
import Lineage.Decimal.Whole
import Lineage.Text.Case
import Lineage.Text.Split

/-!
# Dates

A date value is a calendar date that may lack its day or its month, or two of
them, each with an optional qualifier in front (`BET 1900 AND JAN 1910`), and
an optional phrase in parentheses. A calendar escape such as `@#DJULIAN@` sets
the calendar of the whole value. Every text has a reading; one without a first
calendar date is not valid as a date.
-/

namespace Lineage

/-- The words that qualify a date. -/
inductive Qualifier where
  | about
  | calculated
  | estimated
  | before
  | after
  | between
  | and
  | from
  | to
  | interpreted
deriving DecidableEq, Repr

/-- The qualifier that a keyword stands for. -/
def Qualifier.ofKeyword? : String → Option Qualifier
  | "ABT" => some .about
  | "CAL" => some .calculated
  | "EST" => some .estimated
  | "BEF" => some .before
  | "AFT" => some .after
  | "BET" => some .between
  | "AND" => some .and
  | "FROM" => some .from
  | "TO" => some .to
  | "INT" => some .interpreted
  | _ => none

/-- The keywords of the months, January first. -/
def monthKeywords : List String :=
  ["JAN", "FEB", "MAR", "APR", "MAY", "JUN", "JUL", "AUG", "SEP", "OCT", "NOV", "DEC"]

/-- The number of the month that a keyword stands for, from 1. -/
def month? (word : String) : Option Nat :=
  (monthKeywords.findIdx? (· == word)).map (· + 1)

/-- A calendar date, possibly without its day or month. -/
structure CalendarDate where
  calendar : Calendar
  day : Option Nat
  month : Option Nat
  year : Int
deriving DecidableEq, Repr

namespace CalendarDate

/-- Reads `year`, `month year` or `day month year`. Of a dual year such as
`1750/51` the first counts. The day must exist in its month. -/
def ofWords? (calendar : Calendar) (words : List String) : Option CalendarDate := do
  let (day, month, year) ←
    match words with
    | [year] => some (none, none, year)
    | [month, year] => (month? month).map fun m => (none, some m, year)
    | [day, month, year] => do
      let d ← Decimal.natural? 32 day.toList
      let m ← month? month
      some (some d, some m, year)
    | _ => none
  let year ← Decimal.integer? 32 (year.toList.takeWhile (· != '/'))
  match day with
  | none => some ⟨calendar, none, month, year⟩
  | some d =>
    if 1 ≤ d ∧ d ≤ calendar.monthLength year (month.getD 1) then
      some ⟨calendar, some d, month, year⟩
    else none

/-- The number of days of a month of the date's year. -/
def monthLength (date : CalendarDate) (month : Nat) : Nat :=
  date.calendar.monthLength date.year month

/-- The first day that the date may stand for, as a julian day number. -/
def firstDay (date : CalendarDate) : Int :=
  date.calendar.dayNumber date.year (date.month.getD 1) (date.day.getD 1)

/-- The last day that the date may stand for, as a julian day number. -/
def lastDay (date : CalendarDate) : Int :=
  let month := date.month.getD 12
  date.calendar.dayNumber date.year month (date.day.getD (date.monthLength month))

end CalendarDate

/-- The value of a date line. -/
structure Date where
  raw : String
  qualifier : Option Qualifier := none
  first : Option CalendarDate := none
  secondQualifier : Option Qualifier := none
  second : Option CalendarDate := none
  phrase : Option String := none
deriving DecidableEq, Repr

namespace Date

/-- How far the words of a date have been read: the words since the last
qualifier, the finished parts, and the calendar escape that is still open. -/
structure Reading where
  calendar : Calendar := .gregorian
  unsupported : Bool := false
  escape : Option String := none
  qualifier : Option Qualifier := none
  words : List String := []
  parts : List (Option Qualifier × List String) := []

/-- Ends the part that is being read, unless nothing of it has been seen. -/
def Reading.closePart (r : Reading) : Reading :=
  if r.words.isEmpty && r.qualifier.isNone then r
  else { r with parts := r.parts ++ [(r.qualifier, r.words)], words := [], qualifier := none }

/-- A calendar escape ends with the word that ends in an at sign. Escapes for
other calendars make the whole value unsupported. -/
def Reading.readEscape (r : Reading) (escape : String) : Reading :=
  if escape.toList.getLast? ≠ some '@' then { r with escape := some escape }
  else if escape = "@#DGREGORIAN@" then { r with calendar := .gregorian, escape := none }
  else if escape = "@#DJULIAN@" then { r with calendar := .julian, escape := none }
  else { r with unsupported := true, escape := none }

/-- Reads one word. -/
def Reading.readWord (r : Reading) (word : String) : Reading :=
  match r.escape with
  | some escape => r.readEscape (escape ++ " " ++ word)
  | none =>
    if Text.startsWith "@#D" word then r.readEscape word
    else
      match Qualifier.ofKeyword? word with
      | some q => { r.closePart with qualifier := some q }
      | none => { r with words := r.words ++ [word] }

/-- Reads the words of a date; an escape that is still open at the end is
unsupported. -/
def Reading.ofWords (words : List String) : Reading :=
  let r := (words.foldl readWord {}).closePart
  if r.escape.isSome then { r with unsupported := true } else r

/-- Splits off a phrase: what follows the first opening parenthesis, without
the closing ones at its end. -/
def splitPhrase (raw : String) : String × Option String :=
  match Chars.cut? '(' raw.toList with
  | none => (raw, none)
  | some (body, rest) =>
    let phrase := Chars.trim (Chars.dropEndWhile (· == ')') rest)
    (.ofList body, if phrase.isEmpty then none else some (.ofList phrase))

/-- Reads a date value. -/
def parse (text : String) : Date :=
  let raw := Text.trim text
  let (body, phrase) := splitPhrase raw
  let reading := Reading.ofWords (Text.words (Text.upper body))
  if reading.unsupported then { raw, phrase }
  else
    match reading.parts with
    | [] => { raw, phrase }
    | [(q, words)] =>
      { raw, phrase, qualifier := q, first := CalendarDate.ofWords? reading.calendar words }
    | (q₁, words₁) :: (q₂, words₂) :: _ =>
      { raw, phrase
        qualifier := q₁
        first := CalendarDate.ofWords? reading.calendar words₁
        secondQualifier := q₂
        second := CalendarDate.ofWords? reading.calendar words₂ }

/-- Whether the value has a calendar date. -/
def isValid (date : Date) : Bool :=
  date.first.isSome

end Date

end Lineage
