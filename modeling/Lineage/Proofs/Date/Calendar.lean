import Lineage.Date.Calendar

/-!
# Days and their dates

The days of the common era are numbered, and each has a Gregorian date. To find it, the
cycles of 400, 100, 4 and 1 years that are over by then are counted off, and then the months
of the year. What is left at the end is a day of the month, because in each step less is left
than the next cycle or month has days. So there and back is the same day:

> `Calendar.ofCommonEraDay?_eq_some_iff`: a date is that of a day exactly when the day is
> that of the date.
-/

namespace Lineage.Calendar

/-! ## Years -/

/-- The days of the common era before a year. -/
def daysBeforeYear (year : Int) : Int :=
  365 * (year - 1) + (year - 1) / 4 - (year - 1) / 100 + (year - 1) / 400

/-- The day that a leap year has more than others. -/
def leapDay (year : Int) : Int :=
  if year % 4 = 0 ∧ (year % 100 ≠ 0 ∨ year % 400 = 0) then 1 else 0

theorem daysBeforeYear_succ (year : Int) :
    daysBeforeYear (year + 1) = daysBeforeYear year + 365 + leapDay year := by
  unfold daysBeforeYear leapDay
  split <;> omega

theorem daysBeforeYear_le {a b : Int} (h : a ≤ b) : daysBeforeYear a ≤ daysBeforeYear b := by
  unfold daysBeforeYear
  omega

/-- A day lies in one year only. -/
theorem year_unique {a b days : Int} (ha : daysBeforeYear a ≤ days)
    (ha' : days < daysBeforeYear (a + 1)) (hb : daysBeforeYear b ≤ days)
    (hb' : days < daysBeforeYear (b + 1)) : a = b := by
  rcases Int.lt_trichotomy a b with hlt | heq | hgt
  · have hle := daysBeforeYear_le (show a + 1 ≤ b from hlt)
    omega
  · exact heq
  · have hle := daysBeforeYear_le (show b + 1 ≤ a from hgt)
    omega

/-! ## Months -/

section

variable (calendar : Calendar) (year : Int)

theorem daysBefore_succ {month : Nat} (h : 1 ≤ month) :
    calendar.daysBefore year (month + 1) =
      calendar.daysBefore year month + calendar.monthLength year month := by
  cases month with
  | zero => cases h
  | succ month => rfl

theorem daysBefore_le {month later : Nat} (h : 1 ≤ month) (hle : month ≤ later) :
    calendar.daysBefore year month ≤ calendar.daysBefore year later := by
  induction hle with
  | refl => exact Nat.le_refl _
  | step hle ih =>
    rw [daysBefore_succ calendar year (Nat.le_trans h hle)]
    omega

/-- **Counting off months** leads to the one that a day of the year lies in. -/
theorem monthAndDay?_eq_some_iff {first count days month day : Nat} (hfirst : 1 ≤ first) :
    monthAndDay? calendar year (List.range' first count) days = some (month, day) ↔
      first ≤ month ∧ month < first + count ∧ 1 ≤ day ∧ day ≤ calendar.monthLength year month ∧
        calendar.daysBefore year month + day = calendar.daysBefore year first + days + 1 := by
  induction count generalizing first days with
  | zero =>
    simp only [List.range'_zero, monthAndDay?, reduceCtorEq, false_iff]
    omega
  | succ count ih =>
    have hnext := daysBefore_succ calendar year hfirst
    rw [List.range'_succ, monthAndDay?]
    split
    next hin =>
      -- a later month has more days before it than the first one and these days
      rw [Option.some_inj, Prod.mk.injEq]
      constructor
      · rintro ⟨rfl, rfl⟩
        omega
      · rintro ⟨hle, -, hday, -, hsum⟩
        rcases Nat.eq_or_lt_of_le hle with rfl | hlt
        · omega
        · have hmore := daysBefore_le calendar year (Nat.le_add_left 1 first) hlt
          omega
    next hover =>
      rw [ih (Nat.le_add_left 1 first)]
      constructor
      · rintro ⟨hle, hlt, hday, hlength, hsum⟩
        omega
      · rintro ⟨hle, hlt, hday, hlength, hsum⟩
        have hne : first ≠ month := by
          rintro rfl
          omega
        omega

end

/-- The days of a year, month after month. -/
theorem daysBefore_thirteen {year : Int} (h : covers year = true) :
    (gregorian.daysBefore year 13 : Int) = 365 + leapDay year := by
  have hlength : gregorian.daysBefore year 13 = 337 + gregorian.monthLength year 2 := by
    simp only [daysBefore, monthLength]
    omega
  rw [hlength, monthLength, isLeap, h, leapDay]
  split <;> split <;> simp_all

/-- A date lies in its year. -/
theorem daysBefore_add_day_le {year : Int} {month day : Nat} (hcovers : covers year = true)
    (hmonth : 1 ≤ month ∧ month ≤ 12) (hday : day ≤ gregorian.monthLength year month) :
    (gregorian.daysBefore year month + day : Nat) ≤ 365 + leapDay year := by
  have hlast := daysBefore_le gregorian year (Nat.le_add_left 1 month)
    (show month + 1 ≤ 13 by omega)
  rw [daysBefore_succ gregorian year hmonth.1] at hlast
  have hlength := daysBefore_thirteen hcovers
  omega

/-! ## Days -/

/-- The year that a day of the common era lies in. -/
def yearOf (n : Int) : Int :=
  let days := ((n - 1) % 146097).toNat
  let century := min (days / 36524) 3
  let cycle := (days - 36524 * century) / 1461
  let inCycle := min ((days - 36524 * century - 1461 * cycle) / 365) 3
  400 * ((n - 1) / 146097) + (100 * century + 4 * cycle + inCycle + 1 : Nat)

/-- The days between the start of the year and a day of the common era. -/
def dayOfYear (n : Int) : Nat :=
  let days := ((n - 1) % 146097).toNat
  let century := min (days / 36524) 3
  let cycle := (days - 36524 * century) / 1461
  let inCycle := min ((days - 36524 * century - 1461 * cycle) / 365) 3
  days - 36524 * century - 1461 * cycle - 365 * inCycle

theorem ofCommonEraDay?_eq (n : Int) :
    ofCommonEraDay? n =
      if covers (yearOf n) then
        (monthAndDay? gregorian (yearOf n) (List.range' 1 12) (dayOfYear n)).map
          fun (month, day) => (yearOf n, month, day)
      else none :=
  rfl

section

variable {cycles : Int} {century cycle years : Nat}

/-- The days before a year, by the cycles of years that are over. -/
theorem daysBeforeYear_cycles (hcentury : century ≤ 3) (hcycle : cycle ≤ 24) (hyears : years ≤ 3) :
    daysBeforeYear (400 * cycles + (100 * century + 4 * cycle + years + 1 : Nat)) =
      146097 * cycles + (36524 * century + 1461 * cycle + 365 * years : Nat) := by
  unfold daysBeforeYear
  omega

/-- The last year of a cycle of four is a leap year, but for that of a century that is not
the last of its cycle. -/
theorem leapDay_cycles (hcentury : century ≤ 3) (hcycle : cycle ≤ 24) (hyears : years ≤ 3) :
    leapDay (400 * cycles + (100 * century + 4 * cycle + years + 1 : Nat)) =
      if years = 3 ∧ (cycle ≠ 24 ∨ century = 3) then 1 else 0 := by
  unfold leapDay
  split <;> split <;> omega

end

/-- **Counting off cycles of years** leads to the year that a day lies in. -/
theorem daysBeforeYear_yearOf (n : Int) :
    daysBeforeYear (yearOf n) + dayOfYear n = n - 1 ∧
      n - 1 < daysBeforeYear (yearOf n + 1) := by
  rw [daysBeforeYear_succ]
  unfold yearOf dayOfYear
  dsimp only
  have hdays : (((n - 1) % 146097).toNat : Int) = n - 1 - 146097 * ((n - 1) / 146097) ∧
      ((n - 1) % 146097).toNat < 146097 := by
    omega
  generalize ((n - 1) % 146097).toNat = days at hdays ⊢
  -- in each step less is left than the next cycle has days, but for the last one of each kind
  have hcentury : min (days / 36524) 3 ≤ 3 ∧ 36524 * min (days / 36524) 3 ≤ days ∧
      (min (days / 36524) 3 < 3 → days - 36524 * min (days / 36524) 3 < 36524) := by
    omega
  generalize min (days / 36524) 3 = century at hcentury ⊢
  generalize hrest : days - 36524 * century = rest
  have hcycle : rest / 1461 ≤ 24 ∧ 1461 * (rest / 1461) ≤ rest ∧
      rest - 1461 * (rest / 1461) < 1461 := by
    omega
  generalize rest / 1461 = cycle at hcycle ⊢
  generalize hlast : rest - 1461 * cycle = last at hcycle ⊢
  rw [daysBeforeYear_cycles hcentury.1 hcycle.1 (Nat.min_le_right _ 3),
    leapDay_cycles hcentury.1 hcycle.1 (Nat.min_le_right _ 3)]
  split <;> omega

theorem commonEraDay?_eq_some_iff {year : Int} {month day : Nat} {n : Int} :
    commonEraDay? year month day = some n ↔
      covers year = true ∧ (1 ≤ month ∧ month ≤ 12) ∧
        (1 ≤ day ∧ day ≤ gregorian.monthLength year month) ∧
        daysBeforeYear year + (gregorian.daysBefore year month + day : Nat) = n := by
  simp only [commonEraDay?, daysBeforeYear, Option.ite_none_right_eq_some, Option.some_inj,
    Bool.and_eq_true, decide_eq_true_eq, and_assoc]

/-- The calendar has some hundred million days. -/
theorem natAbs_lt_of_commonEraDay? {year : Int} {month day : Nat} {n : Int}
    (h : commonEraDay? year month day = some n) : n.natAbs < 100000000 := by
  obtain ⟨hcovers, hmonth, ⟨-, hlength⟩, hn⟩ := commonEraDay?_eq_some_iff.mp h
  have hlast := daysBefore_add_day_le hcovers hmonth hlength
  simp only [covers, Bool.and_eq_true, decide_eq_true_eq] at hcovers
  have hleap : leapDay year ≤ 1 := by
    unfold leapDay
    split <;> omega
  unfold daysBeforeYear at hn
  omega

/-- **A date is that of a day exactly when the day is that of the date.** -/
theorem ofCommonEraDay?_eq_some_iff {year : Int} {month day : Nat} {n : Int} :
    ofCommonEraDay? n = some (year, month, day) ↔ commonEraDay? year month day = some n := by
  obtain ⟨hstart, hend⟩ := daysBeforeYear_yearOf n
  have hmonth := @monthAndDay?_eq_some_iff gregorian (yearOf n) 1 12 (dayOfYear n) month day
    (Nat.le_refl 1)
  have hfirst : gregorian.daysBefore (yearOf n) 1 = 0 := rfl
  rw [ofCommonEraDay?_eq, commonEraDay?_eq_some_iff]
  constructor
  · intro h
    split at h
    next hcovers =>
      obtain ⟨⟨m, d⟩, hfound, hsame⟩ := Option.map_eq_some_iff.mp h
      cases hsame
      obtain ⟨hle, hlt, hday, hlength, hsum⟩ := hmonth.mp hfound
      exact ⟨hcovers, ⟨hle, by omega⟩, ⟨hday, hlength⟩, by omega⟩
    next => cases h
  · rintro ⟨hcovers, ⟨hle, hlt⟩, ⟨hday, hlength⟩, hn⟩
    -- the day lies in the year of the date, so this is the year that is found
    have hyear : yearOf n = year := by
      have hlast := daysBefore_add_day_le hcovers ⟨hle, hlt⟩ hlength
      have hsucc := daysBeforeYear_succ year
      exact year_unique (by omega) hend (by omega) (by omega)
    rw [hyear] at hmonth hstart hfirst
    have hfound := hmonth.mpr ⟨hle, by omega, hday, hlength, by omega⟩
    rw [hyear, if_pos hcovers, hfound]
    rfl

end Lineage.Calendar
