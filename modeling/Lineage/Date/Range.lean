import Lineage.Date.Order

/-!
# Ranges of two dates

A range is written with two dates and a keyword in front of each. Each of the dates may name
its calendar by an escape of its own; what it stands for in another calendar is another day,
or none.
-/

namespace Lineage

/-- The calendar that an escape names. -/
def Calendar.ofEscape? : String → Option Calendar
  | "@#DGREGORIAN@" => some gregorian
  | "@#DJULIAN@" => some julian
  | _ => none

/-- The same day, month and year in a calendar, if it has that day. -/
def CalendarDate.inCalendar? (date : CalendarDate) (calendar : Calendar) : Option CalendarDate :=
  match date.day with
  | none => some { date with calendar }
  | some day =>
    if day ≤ calendar.monthLength date.year (date.month.getD 1) then some { date with calendar }
    else none

namespace Date

/-- The words of a value in front of its phrase, in upper case. -/
def dateWords (text : String) : List String :=
  Text.words (Text.upper (.ofList (text.toList.takeWhile (· != '('))))

/-- The words that belong to a date. -/
def plainWords (words : List String) : List String :=
  words.filter fun word => (Calendar.ofEscape? word).isNone

/-- The calendar that the last escape among some words names. -/
def lastEscape? (words : List String) : Option Calendar :=
  (words.filterMap Calendar.ofEscape?).getLast?

/-- The calendar that the last escape of a value names. -/
def escape? (text : String) : Option Calendar :=
  lastEscape? (dateWords text)

/-- Whether a text is read as one calendar date and has no qualifier. A second date would have
one. -/
structure IsSingle (text : String) (date : CalendarDate) : Prop where
  first : (parse text).first = some date
  unqualified : (parse text).qualifier = none
  alone : (parse text).secondQualifier = none

/-- The keywords that a range is written with. -/
inductive RangeForm where
  | between
  | fromTo
deriving DecidableEq, Repr

namespace RangeForm

/-- The keyword in front of the first date. -/
def opening : RangeForm → String
  | between => "BET"
  | fromTo => "FROM"

/-- The keyword in front of the second date. -/
def middle : RangeForm → String
  | between => "AND"
  | fromTo => "TO"

/-- The qualifiers of the two dates. -/
def qualifiers : RangeForm → Qualifier × Qualifier
  | between => (.between, .and)
  | fromTo => (.from, .to)

/-- A range of two dates: `BET x AND y` or `FROM x TO y`. -/
def written (form : RangeForm) (x y : String) : String :=
  form.opening ++ " " ++ x ++ " " ++ form.middle ++ " " ++ y

end RangeForm

end Date

end Lineage
