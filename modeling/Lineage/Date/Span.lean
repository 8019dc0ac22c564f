import Lineage.Date.Basic

/-!
# Spans of days

The calendars by their rules: which years are leap years, how long the months are, and which
day follows a day. A date that lacks its day or its month stands for all days that it leaves
open. On the scale of day numbers they are a span, from a first to a last day, and spans that
follow each other tile a larger one.
-/

namespace Lineage

namespace Calendar

/-- The years with a leap day: each fourth one, but in the Gregorian calendar the last year of
a century only if that is each fourth century. -/
def IsLeapYear : Calendar → Int → Prop
  | gregorian, year => 4 ∣ year ∧ (¬ 100 ∣ year ∨ 400 ∣ year)
  | julian, year => 4 ∣ year

instance (calendar : Calendar) (year : Int) : Decidable (calendar.IsLeapYear year) :=
  match calendar with
  | gregorian => inferInstanceAs (Decidable (4 ∣ year ∧ (¬ 100 ∣ year ∨ 400 ∣ year)))
  | julian => inferInstanceAs (Decidable (4 ∣ year))

/-- The lengths of the months of a year, January first. -/
def monthLengths (calendar : Calendar) (year : Int) : List Nat :=
  [31, if calendar.IsLeapYear year then 29 else 28, 31, 30, 31, 30, 31, 31, 30, 31, 30, 31]

/-- The year, the month and the day that follow a day. -/
def next (calendar : Calendar) (year : Int) (month day : Nat) : Int × Nat × Nat :=
  if day < (calendar.monthLengths year).getD (month - 1) 0 then (year, month, day + 1)
  else if month < 12 then (year, month + 1, 1)
  else (year + 1, 1, 1)

/-- Whether the days of a year have numbers. -/
def Numbers : Calendar → Int → Prop
  | gregorian, year => covers year = true
  | julian, year => -4800 < year

end Calendar

/-- Whether spans follow each other from the start of a whole to its end. -/
def Tiles : List (Int × Int) → Int × Int → Prop
  | [], whole => whole.2 + 1 = whole.1
  | part :: rest, whole =>
    part.1 = whole.1 ∧ part.1 ≤ part.2 ∧ Tiles rest (part.2 + 1, whole.2)

namespace CalendarDate

/-- The first and the last day of a date. -/
def span (date : CalendarDate) : Int × Int :=
  (date.firstDay, date.lastDay)

/-- The number of days that a date stands for. -/
def length (date : CalendarDate) : Nat :=
  match date.day, date.month with
  | some _, _ => 1
  | none, some month => (date.calendar.monthLengths date.year).getD (month - 1) 0
  | none, none => if date.calendar.IsLeapYear date.year then 366 else 365

/-- Whether a date stands for a day of its year: the month and the day that it gives are those
of the day. -/
structure Includes (date : CalendarDate) (month day : Nat) : Prop where
  month_eq : ∀ m, date.month = some m → month = m
  day_eq : ∀ d, date.day = some d → day = d
  month_bounds : 1 ≤ month ∧ month ≤ 12
  day_bounds : 1 ≤ day ∧ day ≤ (date.calendar.monthLengths date.year).getD (month - 1) 0

/-- The date of a month of a year. -/
def ofMonth (calendar : Calendar) (year : Int) (month : Nat) : CalendarDate :=
  ⟨calendar, none, some month, year⟩

/-- The date of a year. -/
def ofYear (calendar : Calendar) (year : Int) : CalendarDate :=
  ⟨calendar, none, none, year⟩

end CalendarDate

end Lineage
