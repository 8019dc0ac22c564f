import Lineage.Listing.Condition
import Lineage.Store.Filter

/-!
# Bounds on the date of a fact

A text such as `BIRT:DATE LTE 1902` is read as a filter that the store answers, and as a
condition on the privatized text of a record. The filter lets a record pass that has a
fact with a valid date, and compares one end of the date with that of the limit. The
condition takes the empty date where there is none, and asks the order of dates.
-/

namespace Lineage

namespace DateBound

/-- The word that a bound is written with. -/
def keyword : DateBound → String
  | notAfter => "LTE"
  | notBefore => "GTE"

/-- The comparison that a bound is in a condition. -/
def comparison : DateBound → Comparison
  | notAfter => .atMost
  | notBefore => .atLeast

/-- Whether the order of dates has a date on the side of a bound. -/
def allows (bound : DateBound) (limit date : Date) : Bool :=
  match bound with
  | notAfter => date.compare limit != .gt
  | notBefore => date.compare limit != .lt

/-- Whether a date overlaps a limit so that its end is on one side of the bound and the
order of dates has it on the other. -/
def Straddles (bound : DateBound) (limit date : Date) : Prop :=
  match bound with
  | notAfter =>
    date.lastDay = limit.lastDay ∧ limit.firstDay < date.firstDay ∨
      limit.lastDay < date.lastDay ∧ date.firstDay ≤ limit.firstDay
  | notBefore => date.firstDay < limit.firstDay ∧ limit.lastDay < date.lastDay

instance (bound : DateBound) (limit date : Date) : Decidable (bound.Straddles limit date) :=
  match bound with
  | notAfter =>
    inferInstanceAs (Decidable
      (date.lastDay = limit.lastDay ∧ limit.firstDay < date.firstDay ∨
        limit.lastDay < date.lastDay ∧ date.firstDay ≤ limit.firstDay))
  | notBefore =>
    inferInstanceAs (Decidable (date.firstDay < limit.firstDay ∧ limit.lastDay < date.lastDay))

end DateBound

/-- The date of the first fact with a tag, the empty date when there is none. -/
def Record.dateOf (record : Record) (tag : String) : Date :=
  match record.facts.find? (·.tag == tag) with
  | some fact => fact.date
  | none => Date.parse ""

/-- Whether a bound on a date decides on a record alike as a filter and as a condition, if all
facts of the record may be seen and at most one has the tag. -/
def ListFilter.DecidesAlike (store : Store) (record : Record) (text : String) : Prop :=
  ∀ tag bound limit scope condition, parse? text = some (.factDate tag bound limit) →
    ListCondition.parse? text scope = some condition →
    (∀ fact ∈ record.facts, store.canShowFact fact = true) →
    (record.facts.filter (·.tag == tag)).length ≤ 1 →
    (factDate tag bound limit).accepts store record =
      condition.holds store (store.privatize record)

end Lineage
