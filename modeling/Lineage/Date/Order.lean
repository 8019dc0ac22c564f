import Lineage.Date.Basic

/-!
# The order of dates

A date covers a range of days. Ranges are compared by where they lie: one that
ends before the other starts is less, and of two that overlap the one that
starts earlier is less unless it also ends later.
-/

namespace Lineage.Date

/-- The first day of the value, 0 when it has no calendar date. -/
def firstDay (date : Date) : Int :=
  match date.first with
  | some d => d.firstDay
  | none => 0

/-- The last day of the value: that of its second date, if there is one. -/
def lastDay (date : Date) : Int :=
  match date.second, date.first with
  | some d, _ => d.lastDay
  | none, some d => d.lastDay
  | none, none => 0

/-- The range of days that a value is ordered by. A single date qualified as
before or after stands for the day just outside it. -/
def range (date : Date) : Int × Int :=
  match date.qualifier, date.second with
  | some .before, none => (date.firstDay - 1, date.firstDay - 1)
  | some .after, none => (date.lastDay + 1, date.lastDay + 1)
  | _, _ => (date.firstDay, date.lastDay)

/-- Compares two values by their ranges. Nothing counts as later than a range
whose end is not positive. -/
def compare (a b : Date) : Ordering :=
  let (amin, amax) := a.range
  let (bmin, bmax) := b.range
  if amax < bmin then .lt
  else if amin > bmax ∧ bmax > 0 then .gt
  else if amin < bmin ∧ amax ≤ bmax then .lt
  else if amin > bmin ∧ amax ≥ bmax ∧ bmax > 0 then .gt
  else .eq

end Lineage.Date
