/-!
# Calendars and day numbers

Two calendars share their months and differ in their leap years. A date of
either is placed on one scale, the julian day number, so that dates of both
can be compared. Gregorian day numbers are defined for the years -262143 to
262142 only; outside them no day exists.
-/

namespace Lineage

/-- The calendars that dates are written in. -/
inductive Calendar where
  | gregorian
  | julian
deriving DecidableEq, Repr

namespace Calendar

/-- The years that the Gregorian day count covers. -/
def covers (year : Int) : Bool :=
  -262143 ≤ year && year ≤ 262142

/-- Whether February has 29 days. In the Gregorian calendar a year that the
day count does not cover is never a leap year. -/
def isLeap (calendar : Calendar) (year : Int) : Bool :=
  match calendar with
  | gregorian =>
    covers year && year % 4 == 0 && (year % 100 != 0 || year % 400 == 0)
  | julian => year % 4 == 0

/-- The number of days of a month. -/
def monthLength (calendar : Calendar) (year : Int) (month : Nat) : Nat :=
  match month with
  | 2 => if calendar.isLeap year then 29 else 28
  | 4 | 6 | 9 | 11 => 30
  | _ => 31

/-- The julian day number of the day before 1 January of the year 1, in the
Gregorian calendar. -/
def commonEraEpoch : Int := 1721425

/-- The number of days from the start of the year up to the given month. -/
def daysBefore (calendar : Calendar) (year : Int) : Nat → Nat
  | 0 => 0
  | 1 => 0
  | month + 2 => daysBefore calendar year (month + 1) + calendar.monthLength year (month + 1)

/-- The day of the common era that a Gregorian date is, if there is such a
date: 1 for 1 January of the year 1. -/
def commonEraDay? (year : Int) (month day : Nat) : Option Int :=
  if covers year && 1 ≤ month && month ≤ 12 && 1 ≤ day && day ≤ gregorian.monthLength year month
  then
    let past := year - 1
    some (365 * past + past / 4 - past / 100 + past / 400 +
      (gregorian.daysBefore year month + day : Nat))
  else none

/-- The month and the day at a number of days behind the start of the year,
counted from 0. -/
def monthAndDay? (calendar : Calendar) (year : Int) : List Nat → Nat → Option (Nat × Nat)
  | [], _ => none
  | month :: rest, days =>
    let length := calendar.monthLength year month
    if days < length then some (month, days + 1)
    else monthAndDay? calendar year rest (days - length)

/-- The Gregorian year, month and day of a day of the common era, if the day
count covers it. Leap years repeat after 400 years; the last century and the
last year of a cycle are a day longer than the others. -/
def ofCommonEraDay? (n : Int) : Option (Int × Nat × Nat) :=
  let past := n - 1
  let days := (past % 146097).toNat
  let century := min (days / 36524) 3
  let days := days - 36524 * century
  let cycle := days / 1461
  let days := days - 1461 * cycle
  let inCycle := min (days / 365) 3
  let days := days - 365 * inCycle
  let year := 400 * (past / 146097) + (100 * century + 4 * cycle + inCycle + 1 : Nat)
  if covers year then
    (monthAndDay? gregorian year (List.range' 1 12) days).map fun (month, day) => (year, month, day)
  else none

/-- The julian day number of a date. A Gregorian date that does not exist has
the number 0. The Julian count starts in the year -4800; its division by four
goes toward zero. -/
def dayNumber (calendar : Calendar) (year : Int) (month day : Nat) : Int :=
  match calendar with
  | gregorian =>
    match commonEraDay? year month day with
    | some n => n + commonEraEpoch
    | none => 0
  | julian =>
    let late : Nat := (14 - month) / 12
    let y := year + 4800 - late
    let m : Nat := month + 12 * late - 3
    day + ((153 * m + 2) / 5 : Nat) + 365 * y + Int.tdiv y 4 - 32083

end Calendar

end Lineage
