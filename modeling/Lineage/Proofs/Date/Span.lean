import Mathlib.Tactic.IntervalCases
import Lineage.Date.Span
import Lineage.Proofs.Date.Calendar
import Lineage.Proofs.Date.Order

/-!
# The days of partial dates

In both calendars the number of a day is that of the last day before its year and its place in
the year: the Julian count, whose months are shifted and counted in groups, comes to the same
sum. A month goes up to where the next one starts, and a year up to the next year, so that the
days of a date that lacks its day or its month follow each other without a gap.

> `CalendarDate.days_of_ofWords?`: a date that has been read stands for the numbers of its days.
-/

namespace Lineage

namespace Calendar

section

variable {calendar : Calendar} {year : Int} (hnumbers : calendar.Numbers year)

include hnumbers

theorem isLeap_iff : calendar.isLeap year = true ↔ calendar.IsLeapYear year := by
  cases calendar with
  | gregorian =>
    have hcovers : covers year = true := hnumbers
    simp only [isLeap, IsLeapYear, hcovers, Int.dvd_iff_emod_eq_zero, Bool.true_and,
      Bool.and_eq_true, Bool.or_eq_true, beq_iff_eq, bne_iff_ne, ne_eq]
  | julian => simp only [isLeap, IsLeapYear, Int.dvd_iff_emod_eq_zero, beq_iff_eq]

theorem monthLength_eq {month : Nat} (h : 1 ≤ month ∧ month ≤ 12) :
    calendar.monthLength year month = (calendar.monthLengths year).getD (month - 1) 0 := by
  have hleap := isLeap_iff hnumbers
  obtain ⟨hle, hlt⟩ := h
  by_cases hyear : calendar.IsLeapYear year
  · rw [iff_true_right hyear] at hleap
    interval_cases month <;> simp [monthLength, monthLengths, hleap, hyear]
  · rw [iff_false_right hyear] at hleap
    interval_cases month <;> simp [monthLength, monthLengths, hleap, hyear]

/-- The days of a year, month after month. -/
theorem daysBefore_yearEnd :
    calendar.daysBefore year 13 = if calendar.IsLeapYear year then 366 else 365 := by
  have hsum : calendar.daysBefore year 13 = 337 + calendar.monthLength year 2 := by
    simp only [daysBefore, monthLength]
    omega
  rw [hsum, monthLength_eq hnumbers ⟨by omega, by omega⟩]
  show 337 + (if calendar.IsLeapYear year then 29 else 28) = _
  split
  · rfl
  · rfl

end

theorem numbers_of_pos {calendar : Calendar} {year : Int} (hyear : 1 ≤ year)
    (hcovers : calendar = .gregorian → covers year = true) : calendar.Numbers year := by
  cases calendar with
  | gregorian => exact hcovers rfl
  | julian =>
    show -4800 < year
    omega

/-- The number of the last day before a year. -/
def eve : Calendar → Int → Int
  | gregorian, year => daysBeforeYear year + commonEraEpoch
  | julian, year => 365 * (year - 1) + (year - 1) / 4 + 1721423

section

variable {calendar : Calendar} {year : Int}

/-- The days before a month when the year starts in March: the months from March on come in
groups of five with 153 days. -/
theorem daysBefore_julian {month : Nat} (h : 1 ≤ month ∧ month ≤ 12) :
    julian.daysBefore year month =
      if month ≤ 2 then (153 * (month + 9) + 2) / 5 - 306
      else (153 * (month - 3) + 2) / 5 + 31 + julian.monthLength year 2 := by
  obtain ⟨hle, hlt⟩ := h
  interval_cases month <;> simp [daysBefore, monthLength] <;> omega

/-- **The number of a day** is that of the last day before its year and its place in the
year. -/
theorem dayNumber_eq (hnumbers : calendar.Numbers year) {month day : Nat}
    (hmonth : 1 ≤ month ∧ month ≤ 12) (hday : 1 ≤ day ∧ day ≤ calendar.monthLength year month) :
    calendar.dayNumber year month day =
      calendar.eve year + (calendar.daysBefore year month + day : Nat) := by
  cases calendar with
  | gregorian =>
    rw [gregorian_dayNumber hnumbers hmonth hday, eve, daysBeforeYear]
    omega
  | julian =>
    have hafter : -4800 < year := hnumbers
    have hbefore := @daysBefore_julian year month hmonth
    simp only [dayNumber, eve]
    by_cases hearly : month ≤ 2
    · -- the first two months are counted to the year before
      have hlate : (14 - month) / 12 = 1 := by omega
      have hshift : month + 12 * 1 - 3 = month + 9 := by omega
      rw [if_pos hearly] at hbefore
      rw [hlate, hshift, Int.tdiv_eq_ediv_of_nonneg (by omega)]
      omega
    · have hlate : (14 - month) / 12 = 0 := by omega
      have hshift : month + 12 * 0 - 3 = month - 3 := by omega
      have hlength : julian.monthLength year 2 = if 4 ∣ year then 29 else 28 :=
        monthLength_eq hnumbers ⟨by omega, by omega⟩
      rw [if_neg hearly] at hbefore
      rw [hlate, hshift, Int.tdiv_eq_ediv_of_nonneg (by omega)]
      split at hlength <;> omega

/-- A year goes up to the next one. -/
theorem eve_succ (hnumbers : calendar.Numbers year) :
    calendar.eve (year + 1) = calendar.eve year + calendar.daysBefore year 13 := by
  rw [daysBefore_yearEnd hnumbers]
  cases calendar with
  | gregorian =>
    rw [eve, eve, daysBeforeYear_succ, leapDay]
    by_cases hleap : gregorian.IsLeapYear year
    · rw [if_pos hleap, if_pos (by unfold IsLeapYear at hleap; omega)]
      omega
    · rw [if_neg hleap, if_neg (by unfold IsLeapYear at hleap; omega)]
      omega
  | julian =>
    rw [eve, eve]
    by_cases hleap : julian.IsLeapYear year
    · rw [if_pos hleap]
      unfold IsLeapYear at hleap
      omega
    · rw [if_neg hleap]
      unfold IsLeapYear at hleap
      omega

/-- Each place in a year is that of a day. -/
theorem exists_month (calendar : Calendar) (year : Int) {last days : Nat} (hpos : 1 ≤ days)
    (hlast : days ≤ calendar.daysBefore year (last + 1)) :
    ∃ month, (1 ≤ month ∧ month ≤ last) ∧ calendar.daysBefore year month < days ∧
      days ≤ calendar.daysBefore year month + calendar.monthLength year month := by
  induction last with
  | zero =>
    have hnone : calendar.daysBefore year (0 + 1) = 0 := rfl
    omega
  | succ last ih =>
    rw [daysBefore_succ calendar year (Nat.le_add_left 1 last)] at hlast
    by_cases hearlier : days ≤ calendar.daysBefore year (last + 1)
    · obtain ⟨month, ⟨hle, hlt⟩, hin⟩ := ih hearlier
      exact ⟨month, ⟨hle, by omega⟩, hin⟩
    · exact ⟨last + 1, ⟨by omega, Nat.le_refl _⟩, by omega, hlast⟩

end

end Calendar

namespace CalendarDate

open Calendar

/-- The number of days of the year before the first day of a date. -/
def offset (date : CalendarDate) : Nat :=
  date.calendar.daysBefore date.year (date.month.getD 1) + (date.day.getD 1 - 1)

/-! ## The days that a date stands for -/

section

variable {calendar : Calendar} {year : Int} (hnumbers : calendar.Numbers year)
  {month day m d : Nat}

include hnumbers

theorem includes_day_iff (hmonth : 1 ≤ month ∧ month ≤ 12)
    (hday : 1 ≤ day ∧ day ≤ calendar.monthLength year month) :
    Includes ⟨calendar, some day, some month, year⟩ m d ↔ m = month ∧ d = day := by
  rw [monthLength_eq hnumbers hmonth] at hday
  constructor
  · intro h
    exact ⟨h.month_eq month rfl, h.day_eq day rfl⟩
  · rintro ⟨rfl, rfl⟩
    exact ⟨fun _ => Option.some.inj, fun _ => Option.some.inj, hmonth, hday⟩

theorem includes_month_iff (hmonth : 1 ≤ month ∧ month ≤ 12) :
    Includes ⟨calendar, none, some month, year⟩ m d ↔
      m = month ∧ 1 ≤ d ∧ d ≤ calendar.monthLength year month := by
  rw [monthLength_eq hnumbers hmonth]
  constructor
  · intro h
    obtain rfl := h.month_eq month rfl
    exact ⟨rfl, h.day_bounds⟩
  · rintro ⟨rfl, hday⟩
    exact ⟨fun _ => Option.some.inj, nofun, hmonth, hday⟩

theorem includes_year_iff :
    Includes ⟨calendar, none, none, year⟩ m d ↔
      (1 ≤ m ∧ m ≤ 12) ∧ 1 ≤ d ∧ d ≤ calendar.monthLength year m := by
  constructor
  · intro h
    rw [monthLength_eq hnumbers h.month_bounds]
    exact ⟨h.month_bounds, h.day_bounds⟩
  · intro ⟨hmonth, hday⟩
    rw [monthLength_eq hnumbers hmonth] at hday
    exact ⟨nofun, nofun, hmonth, hday⟩

end

section

variable {date : CalendarDate} (hexists : date.Exists)
  (hnumbers : date.calendar.Numbers date.year)

include hexists hnumbers

theorem firstDay_eq : date.firstDay = date.calendar.eve date.year + (date.offset + 1 : Nat) := by
  have hmonth : 1 ≤ date.month.getD 1 ∧ date.month.getD 1 ≤ 12 := by
    cases hmonth : date.month with
    | none => exact ⟨Nat.le_refl 1, by decide⟩
    | some month => exact hexists.month month hmonth
  have hday : 1 ≤ date.day.getD 1 ∧
      date.day.getD 1 ≤ date.calendar.monthLength date.year (date.month.getD 1) := by
    cases hday : date.day with
    | none => exact ⟨Nat.le_refl 1, monthLength_pos _ _ _⟩
    | some day =>
      obtain ⟨month, hmonth, hbounds⟩ := hexists.day day hday
      rw [hmonth]
      exact hbounds
  rw [firstDay, dayNumber_eq hnumbers hmonth hday, offset]
  omega

/-- A date ends after as many days as it stands for. -/
theorem lastDay_eq :
    date.lastDay = date.calendar.eve date.year + (date.offset + date.length : Nat) := by
  obtain ⟨calendar, day, month, year⟩ := date
  have hyear : calendar.Numbers year := hnumbers
  cases day with
  | some day =>
    obtain ⟨month, rfl, hday⟩ := hexists.day day rfl
    show calendar.dayNumber year month day =
      calendar.eve year + (calendar.daysBefore year month + (day - 1) + 1 : Nat)
    rw [dayNumber_eq hyear (hexists.month month rfl) hday]
    omega
  | none =>
    cases month with
    | some month =>
      have hmonth := hexists.month month rfl
      show calendar.dayNumber year month (calendar.monthLength year month) =
        calendar.eve year + (calendar.daysBefore year month + (1 - 1) +
          (calendar.monthLengths year).getD (month - 1) 0 : Nat)
      rw [dayNumber_eq hyear hmonth ⟨monthLength_pos _ _ _, Nat.le_refl _⟩,
        monthLength_eq hyear hmonth]
      omega
    | none =>
      have hend := daysBefore_yearEnd hyear
      rw [daysBefore_succ calendar year (by omega)] at hend
      show calendar.dayNumber year 12 (calendar.monthLength year 12) =
        calendar.eve year + (0 + (1 - 1) + if calendar.IsLeapYear year then 366 else 365 : Nat)
      rw [dayNumber_eq hyear ⟨by omega, by omega⟩ ⟨monthLength_pos _ _ _, Nat.le_refl _⟩, hend]
      omega

/-- The places in the year that a date stands for are those of its days. -/
theorem place_iff_includes (place : Nat) :
    date.offset < place ∧ place ≤ date.offset + date.length ↔
      ∃ month day, date.Includes month day ∧
        date.calendar.daysBefore date.year month + day = place := by
  obtain ⟨calendar, day, month, year⟩ := date
  have hyear : calendar.Numbers year := hnumbers
  cases day with
  | some day =>
    obtain ⟨month, rfl, hday⟩ := hexists.day day rfl
    show calendar.daysBefore year month + (day - 1) < place ∧
      place ≤ calendar.daysBefore year month + (day - 1) + 1 ↔
        ∃ m d, _ ∧ calendar.daysBefore year m + d = place
    constructor
    · intro hplace
      exact ⟨month, day, (includes_day_iff hyear (hexists.month month rfl) hday).mpr ⟨rfl, rfl⟩,
        by omega⟩
    · intro ⟨m, d, hincludes, hplace⟩
      obtain ⟨rfl, rfl⟩ := (includes_day_iff hyear (hexists.month month rfl) hday).mp hincludes
      have hfirst := hincludes.day_bounds.1
      omega
  | none =>
    cases month with
    | some month =>
      have hmonth := hexists.month month rfl
      have hlength : length ⟨calendar, none, some month, year⟩ = calendar.monthLength year month :=
        (monthLength_eq hyear hmonth).symm
      rw [hlength]
      show calendar.daysBefore year month + (1 - 1) < place ∧
        place ≤ calendar.daysBefore year month + (1 - 1) + calendar.monthLength year month ↔
          ∃ m d, _ ∧ calendar.daysBefore year m + d = place
      constructor
      · intro hplace
        exact ⟨month, place - calendar.daysBefore year month,
          (includes_month_iff hyear hmonth).mpr ⟨rfl, by omega⟩, by omega⟩
      · intro ⟨m, d, hincludes, hplace⟩
        obtain ⟨rfl, hday⟩ := (includes_month_iff hyear hmonth).mp hincludes
        omega
    | none =>
      have hlength : length ⟨calendar, none, none, year⟩ = calendar.daysBefore year (12 + 1) :=
        (daysBefore_yearEnd hyear).symm
      rw [hlength]
      show 0 + (1 - 1) < place ∧ place ≤ 0 + (1 - 1) + calendar.daysBefore year (12 + 1) ↔
        ∃ m d, _ ∧ calendar.daysBefore year m + d = place
      constructor
      · intro hplace
        obtain ⟨m, hm, hstart, hstop⟩ :=
          exists_month calendar year (show 1 ≤ place by omega)
            (show place ≤ calendar.daysBefore year (12 + 1) by omega)
        exact ⟨m, place - calendar.daysBefore year m,
          (includes_year_iff hyear).mpr ⟨hm, by omega⟩, by omega⟩
      · intro ⟨m, d, hincludes, hplace⟩
        obtain ⟨⟨hfirst, hlast⟩, hday⟩ := (includes_year_iff hyear).mp hincludes
        have hnext := daysBefore_le calendar year (Nat.le_add_left 1 m)
          (show m + 1 ≤ 12 + 1 by omega)
        rw [daysBefore_succ calendar year hfirst] at hnext
        omega

/-- **A date stands for exactly the numbers of its days.** -/
theorem span_iff_includes (n : Int) :
    date.firstDay ≤ n ∧ n ≤ date.lastDay ↔
      ∃ month day, date.Includes month day ∧
        date.calendar.dayNumber date.year month day = n := by
  have hnumber : ∀ {month day : Nat}, date.Includes month day →
      date.calendar.dayNumber date.year month day =
        date.calendar.eve date.year + (date.calendar.daysBefore date.year month + day : Nat) := by
    intro month day hincludes
    have hbounds := hincludes.day_bounds
    rw [← monthLength_eq hnumbers hincludes.month_bounds] at hbounds
    exact dayNumber_eq hnumbers hincludes.month_bounds hbounds
  rw [firstDay_eq hexists hnumbers, lastDay_eq hexists hnumbers]
  constructor
  · intro hin
    obtain ⟨place, rfl⟩ : ∃ place : Nat, n = date.calendar.eve date.year + place :=
      ⟨(n - date.calendar.eve date.year).toNat, by omega⟩
    obtain ⟨month, day, hincludes, hplace⟩ :=
      (place_iff_includes hexists hnumbers place).mp (by omega)
    exact ⟨month, day, hincludes, by rw [hnumber hincludes, hplace]⟩
  · intro ⟨month, day, hincludes, hn⟩
    rw [hnumber hincludes] at hn
    have hplace := (place_iff_includes hexists hnumbers _).mpr ⟨month, day, hincludes, rfl⟩
    omega

end

/-! ## Days and months in order -/

theorem exists_ofMonth (calendar : Calendar) (year : Int) {month : Nat}
    (hmonth : 1 ≤ month ∧ month ≤ 12) : (ofMonth calendar year month).Exists := by
  refine ⟨?_, nofun⟩
  intro m hm
  rwa [← Option.some.inj hm]

theorem exists_ofYear (calendar : Calendar) (year : Int) : (ofYear calendar year).Exists :=
  ⟨nofun, nofun⟩

/-- **The months of a year from one on** tile what is left of it. -/
theorem tiles_months {calendar : Calendar} {year : Int} (hnumbers : calendar.Numbers year)
    {first count : Nat} (hfirst : 1 ≤ first) (hcount : first + count ≤ 13) :
    Tiles ((List.range' first count).map fun month => (ofMonth calendar year month).span)
      (calendar.eve year + (calendar.daysBefore year first + 1 : Nat),
        calendar.eve year + (calendar.daysBefore year (first + count) : Nat)) := by
  induction count generalizing first with
  | zero =>
    show calendar.eve year + (calendar.daysBefore year first : Nat) + 1 =
      calendar.eve year + (calendar.daysBefore year first + 1 : Nat)
    omega
  | succ count ih =>
    have hmonth : 1 ≤ first ∧ first ≤ 12 := ⟨hfirst, by omega⟩
    have hexists := exists_ofMonth calendar year hmonth
    have hnext := daysBefore_succ calendar year hfirst
    have hlength : (ofMonth calendar year first).length = calendar.monthLength year first :=
      (monthLength_eq hnumbers hmonth).symm
    have hspan : (ofMonth calendar year first).span =
        (calendar.eve year + (calendar.daysBefore year first + 1 : Nat),
          calendar.eve year + (calendar.daysBefore year (first + 1) : Nat)) := by
      rw [span, firstDay_eq hexists hnumbers, lastDay_eq hexists hnumbers, hlength, hnext]
      rfl
    have hforward := hexists.firstDay_le_lastDay
    rw [List.range'_succ, List.map_cons]
    refine ⟨by rw [hspan], hforward, ?_⟩
    have hrest := ih (Nat.le_add_left 1 first) (by omega)
    rw [hspan]
    rw [show first + 1 + count = first + (count + 1) by omega] at hrest
    rw [show calendar.eve year + (calendar.daysBefore year (first + 1) : Nat) + 1 =
      calendar.eve year + (calendar.daysBefore year (first + 1) + 1 : Nat) by omega]
    exact hrest

theorem next_year_le {calendar : Calendar} {year year' : Int} {month day month' day' : Nat}
    (h : calendar.next year month day = (year', month', day')) : year ≤ year' := by
  unfold next at h
  split at h
  · cases h
    exact Int.le_refl year
  · split at h
    · cases h
      exact Int.le_refl year
    · cases h
      omega

/-- The day behind a day of a year has the next number, if it has one. -/
theorem dayNumber_next {calendar : Calendar} {year year' : Int} {month day month' day' : Nat}
    (hnumbers : calendar.Numbers year) (hmonth : 1 ≤ month ∧ month ≤ 12)
    (hday : 1 ≤ day ∧ day ≤ calendar.monthLength year month)
    (hnext : calendar.next year month day = (year', month', day'))
    (hnumbers' : calendar.Numbers year') :
    calendar.dayNumber year' month' day' = calendar.dayNumber year month day + 1 := by
  rw [dayNumber_eq hnumbers hmonth hday]
  unfold next at hnext
  rw [← monthLength_eq hnumbers hmonth] at hnext
  by_cases hin : day < calendar.monthLength year month
  · rw [if_pos hin] at hnext
    cases hnext
    rw [dayNumber_eq hnumbers hmonth ⟨by omega, hin⟩]
    omega
  · rw [if_neg hin] at hnext
    have hlast : day = calendar.monthLength year month := by omega
    have hafter := daysBefore_succ calendar year hmonth.1
    by_cases hlater : month < 12
    · rw [if_pos hlater] at hnext
      cases hnext
      have hmonth' : 1 ≤ month + 1 ∧ month + 1 ≤ 12 := by omega
      rw [dayNumber_eq hnumbers hmonth' ⟨Nat.le_refl 1, monthLength_pos _ _ _⟩]
      omega
    · rw [if_neg hlater] at hnext
      cases hnext
      obtain rfl : month = 12 := by omega
      have hfirst : calendar.daysBefore (year + 1) 1 = 0 := rfl
      have hyear : calendar.eve (year + 1) = calendar.eve year + calendar.daysBefore year (12 + 1) :=
        eve_succ hnumbers
      rw [dayNumber_eq hnumbers' ⟨Nat.le_refl 1, by omega⟩ ⟨Nat.le_refl 1, monthLength_pos _ _ _⟩]
      omega

/-- **A date that has been read stands for the numbers of its days.** From the year 1 on, and in
the Gregorian calendar as far as its days have numbers, the date does not end before it starts, it
has as many days as the calendar gives it, and these are the days between its first and its last
one. Behind a full date the next day of the calendar follows, also where a month or a year ends,
and the months of the year, in order, tile the year. -/
theorem days_of_ofWords? {calendar : Calendar} {words : List String} {date : CalendarDate}
    (hread : ofWords? calendar words = some date) (hyear : 1 ≤ date.year)
    (hcovers : date.calendar = .gregorian → covers date.year = true) :
    date.firstDay ≤ date.lastDay ∧
    date.lastDay - date.firstDay + 1 = date.length ∧
    (∀ n, date.firstDay ≤ n ∧ n ≤ date.lastDay ↔
      ∃ month day, date.Includes month day ∧
        date.calendar.dayNumber date.year month day = n) ∧
    (∀ month day year' month' day', date.month = some month → date.day = some day →
      date.calendar.next date.year month day = (year', month', day') →
      (date.calendar = .gregorian → covers year' = true) →
      firstDay ⟨date.calendar, some day', some month', year'⟩ = date.lastDay + 1) ∧
    Tiles ((List.range' 1 12).map fun month => (ofMonth date.calendar date.year month).span)
      (ofYear date.calendar date.year).span := by
  have hexists := exists_of_ofWords? hread
  have hnumbers : date.calendar.Numbers date.year := numbers_of_pos hyear hcovers
  have hfirst := firstDay_eq hexists hnumbers
  have hlast := lastDay_eq hexists hnumbers
  refine ⟨hexists.firstDay_le_lastDay, by omega, span_iff_includes hexists hnumbers, ?_, ?_⟩
  · intro month day year' month' day' hmonth hday hnext hcovers'
    obtain ⟨m, hm, hbounds⟩ := hexists.day day hday
    obtain rfl : m = month := Option.some.inj (hm.symm.trans hmonth)
    have hlastDay : date.lastDay = date.calendar.dayNumber date.year m day := by
      rw [lastDay, hmonth, hday]
      rfl
    have hyear' : date.year ≤ year' := next_year_le hnext
    rw [hlastDay]
    exact dayNumber_next hnumbers (hexists.month m hm) hbounds hnext
      (numbers_of_pos (Int.le_trans hyear hyear') hcovers')
  · have hwhole := exists_ofYear date.calendar date.year
    have hstart : (ofYear date.calendar date.year).offset = date.calendar.daysBefore date.year 1 :=
      rfl
    have hend : (ofYear date.calendar date.year).offset + (ofYear date.calendar date.year).length =
        date.calendar.daysBefore date.year (1 + 12) := by
      rw [daysBefore_yearEnd hnumbers]
      exact Nat.zero_add _
    rw [span, firstDay_eq hwhole hnumbers, lastDay_eq hwhole hnumbers, hend, hstart]
    exact tiles_months hnumbers (Nat.le_refl 1) (by omega)

/-- February of a year that is a leap year in the Julian calendar alone: its last day is behind the
28th, and the next one is in March. -/
theorem days_of_ofWords?_leapDay :
    ofWords? .julian ["29", "FEB", "1900"] = some ⟨.julian, some 29, some 2, 1900⟩ ∧
    (1 : Int) ≤ 1900 ∧
    firstDay ⟨.julian, some 1, some 3, 1900⟩ = lastDay ⟨.julian, some 29, some 2, 1900⟩ + 1 := by
  have hread : ofWords? .julian ["29", "FEB", "1900"] = some ⟨.julian, some 29, some 2, 1900⟩ := by
    decide +kernel
  have hyear : (1 : Int) ≤ 1900 := by decide
  obtain ⟨-, -, -, hnext, -⟩ := days_of_ofWords? hread hyear nofun
  exact ⟨hread, hyear, hnext 2 29 1900 3 1 rfl rfl (by decide +kernel) nofun⟩

end CalendarDate

end Lineage
