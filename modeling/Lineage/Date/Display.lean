import Lineage.Date.Basic

/-!
# Written dates

The reading of a date value in words, and the form in which a calendar day is
written into a record.
-/

namespace Lineage

/-- The word printed for a qualifier. -/
def Qualifier.label : Qualifier → String
  | about => "about"
  | calculated => "calculated"
  | estimated => "estimated"
  | before => "before"
  | after => "after"
  | between => "between"
  | and => "and"
  | .from => "from"
  | .to => "to"
  | interpreted => "interpreted"

/-- The names of the months, January first. -/
def monthNames : List String :=
  ["January", "February", "March", "April", "May", "June", "July", "August", "September",
    "October", "November", "December"]

/-- The date in words; a date of the Julian calendar says so. -/
def CalendarDate.display (date : CalendarDate) : String :=
  let year := toString date.year
  let text :=
    match date.day, date.month.bind fun m => monthNames[m - 1]? with
    | some day, some month => toString day ++ " " ++ month ++ " " ++ year
    | none, some month => month ++ " " ++ year
    | _, none => year
  match date.calendar with
  | .gregorian => text
  | .julian => text ++ " (Julian)"

namespace Date

/-- The value in words, such as `about 1 January 1900`. Without a calendar
date it is the phrase, or else the value as it was written. -/
def display (date : Date) : String :=
  match date.first with
  | none => date.phrase.getD date.raw
  | some first =>
    let parts :=
      [date.qualifier.map Qualifier.label, some first.display,
        date.secondQualifier.map Qualifier.label, date.second.map CalendarDate.display,
        date.phrase.map fun phrase => "(" ++ phrase ++ ")"]
    " ".intercalate (parts.filterMap id)

/-- A calendar day as records write it, such as `07 MAR 2024`. -/
def written (year : Int) (month day : Nat) : String :=
  Decimal.padded 2 day ++ " " ++ monthKeywords.getD (month - 1) "" ++ " " ++ toString year

end Date

end Lineage
