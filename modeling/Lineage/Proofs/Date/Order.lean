import Mathlib.Data.Int.Order.Basic
import Lineage.Date.Order

/-!
# Where dates come before others

A date lies before another when it starts earlier and ends no later. That is all there
is to the order of dates whose ranges are sound, so it can be turned around and chained
there. Two dates of which one starts earlier and ends later count as equal, and this is
where equality cannot be chained; and a date without a calendar date has an end that is
not positive, so that nothing comes after it.

> `Date.compare_sound`: what holds of the order, for sound ranges.
-/

namespace Lineage

/-! ## Day numbers -/

namespace Calendar

variable (calendar : Calendar) (year : Int)

theorem monthLength_pos (month : Nat) : 1 ≤ calendar.monthLength year month := by
  unfold monthLength
  split
  · split <;> omega
  all_goals omega

variable {calendar year}

theorem gregorian_dayNumber {month day : Nat} (hcovers : covers year = true)
    (hmonth : 1 ≤ month ∧ month ≤ 12) (hday : 1 ≤ day ∧ day ≤ gregorian.monthLength year month) :
    gregorian.dayNumber year month day =
      365 * (year - 1) + (year - 1) / 4 - (year - 1) / 100 + (year - 1) / 400 +
        (gregorian.daysBefore year month + day : Nat) + commonEraEpoch := by
  rw [dayNumber, commonEraDay?, if_pos (by simp [hcovers, hmonth, hday])]

theorem gregorian_dayNumber_of_not_covers {month day : Nat} (hcovers : covers year = false) :
    gregorian.dayNumber year month day = 0 := by
  rw [dayNumber, commonEraDay?, if_neg (by simp [hcovers])]

variable (calendar year)

/-- Later days of a month have larger numbers. -/
theorem dayNumber_le_of_day {month day later : Nat} (hmonth : 1 ≤ month ∧ month ≤ 12)
    (hday : 1 ≤ day) (hle : day ≤ later) (hlater : later ≤ calendar.monthLength year month) :
    calendar.dayNumber year month day ≤ calendar.dayNumber year month later := by
  cases calendar with
  | julian =>
    simp only [dayNumber]
    omega
  | gregorian =>
    cases hcovers : covers year with
    | false =>
      rw [gregorian_dayNumber_of_not_covers hcovers, gregorian_dayNumber_of_not_covers hcovers]
    | true =>
      rw [gregorian_dayNumber hcovers hmonth ⟨hday, by omega⟩,
        gregorian_dayNumber hcovers hmonth ⟨by omega, hlater⟩]
      omega

/-- The last day of a year is not before the first. -/
theorem dayNumber_le_of_year :
    calendar.dayNumber year 1 1 ≤ calendar.dayNumber year 12 (calendar.monthLength year 12) := by
  cases calendar with
  | julian =>
    -- January and February are counted to the year before
    have hleap : Int.tdiv (year + 4800 - (1 : Nat)) 4 ≤ Int.tdiv (year + 4800 - (0 : Nat)) 4 :=
      Int.tdiv_le_tdiv (by omega) (by omega)
    have hfirst : (14 - 1) / 12 = 1 ∧ (153 * (1 + 12 * 1 - 3) + 2) / 5 = 306 := by decide
    have hlast : (14 - 12) / 12 = 0 ∧ (153 * (12 + 12 * 0 - 3) + 2) / 5 = 275 := by decide
    simp only [dayNumber, monthLength, hfirst, hlast]
    omega
  | gregorian =>
    cases hcovers : covers year with
    | false =>
      rw [gregorian_dayNumber_of_not_covers hcovers, gregorian_dayNumber_of_not_covers hcovers]
    | true =>
      have hbefore : gregorian.daysBefore year 1 = 0 := rfl
      rw [gregorian_dayNumber hcovers (by omega) ⟨Nat.le_refl 1, monthLength_pos _ _ 1⟩,
        gregorian_dayNumber hcovers (by omega) ⟨monthLength_pos _ _ 12, Nat.le_refl _⟩, hbefore]
      have hlength := monthLength_pos gregorian year 12
      omega

end Calendar

namespace CalendarDate

/-- Whether the month and the day of a date exist. -/
structure Exists (date : CalendarDate) : Prop where
  month : ∀ month, date.month = some month → 1 ≤ month ∧ month ≤ 12
  day : ∀ day, date.day = some day → ∃ month, date.month = some month ∧
    1 ≤ day ∧ day ≤ date.monthLength month

theorem month?_bounds {word : String} {month : Nat} (h : month? word = some month) :
    1 ≤ month ∧ month ≤ 12 := by
  rw [month?, Option.map_eq_some_iff] at h
  obtain ⟨index, hindex, rfl⟩ := h
  obtain ⟨hlt, -⟩ := List.findIdx?_eq_some_iff_getElem.mp hindex
  have hlength : monthKeywords.length = 12 := rfl
  omega

/-- **What is read as a calendar date exists.** -/
theorem exists_of_ofWords? {calendar : Calendar} {words : List String} {date : CalendarDate}
    (h : ofWords? calendar words = some date) : date.Exists := by
  unfold ofWords? at h
  simp only [Option.bind_eq_bind] at h
  split at h
  · obtain ⟨_, hparts, h⟩ := Option.bind_eq_some_iff.mp h
    cases hparts
    obtain ⟨year, -, h⟩ := Option.bind_eq_some_iff.mp h
    cases h
    exact ⟨nofun, nofun⟩
  · obtain ⟨_, hparts, h⟩ := Option.bind_eq_some_iff.mp h
    obtain ⟨m, hm, rfl⟩ := Option.map_eq_some_iff.mp hparts
    obtain ⟨year, -, h⟩ := Option.bind_eq_some_iff.mp h
    cases h
    refine ⟨?_, nofun⟩
    rintro _ ⟨⟩
    exact month?_bounds hm
  · obtain ⟨d, -, h⟩ := Option.bind_eq_some_iff.mp h
    obtain ⟨m, hm, h⟩ := Option.bind_eq_some_iff.mp h
    obtain ⟨_, hparts, h⟩ := Option.bind_eq_some_iff.mp h
    cases hparts
    obtain ⟨year, -, h⟩ := Option.bind_eq_some_iff.mp h
    dsimp only [Option.getD_some] at h
    split_ifs at h with hrange
    cases h
    refine ⟨?_, ?_⟩
    · rintro _ ⟨⟩
      exact month?_bounds hm
    · rintro _ ⟨⟩
      exact ⟨m, rfl, hrange⟩
  · cases h

/-- A date that exists does not end before it starts. -/
theorem Exists.firstDay_le_lastDay {date : CalendarDate} (h : date.Exists) :
    date.firstDay ≤ date.lastDay := by
  rw [firstDay, lastDay]
  cases hday : date.day with
  | some day =>
    obtain ⟨month, hmonth, -⟩ := h.day day hday
    rw [hmonth]
    exact Int.le_refl _
  | none =>
    cases hmonth : date.month with
    | none => exact date.calendar.dayNumber_le_of_year date.year
    | some month =>
      exact date.calendar.dayNumber_le_of_day date.year (h.month month hmonth) (Nat.le_refl 1)
        (date.calendar.monthLength_pos date.year month) (Nat.le_refl _)

end CalendarDate

namespace Date

/-- Each calendar date of a value has been read from some of its words. -/
theorem first_of_parse (text : String) :
    (parse text).first = none ∨
      ∃ calendar words, (parse text).first = CalendarDate.ofWords? calendar words := by
  unfold parse
  dsimp only
  split
  · exact .inl rfl
  · split
    · exact .inl rfl
    · exact .inr ⟨_, _, rfl⟩
    · exact .inr ⟨_, _, rfl⟩

theorem exists_of_parse {text : String} {date : CalendarDate}
    (h : (parse text).first = some date) : date.Exists := by
  rcases first_of_parse text with hnone | ⟨calendar, words, hread⟩
  · rw [hnone] at h
    cases h
  · rw [hread] at h
    exact CalendarDate.exists_of_ofWords? h

/-! ## Ranges -/

/-- Whether a date starts earlier than another and ends no later. -/
def Precedes (a b : Date) : Prop :=
  a.range.1 < b.range.1 ∧ a.range.2 ≤ b.range.2

/-- Whether a date starts earlier than another and ends later. -/
def Encloses (a b : Date) : Prop :=
  a.range.1 < b.range.1 ∧ b.range.2 < a.range.2

/-- A date that does not end before it starts, and ends in the time that is counted. -/
structure Sound (date : Date) : Prop where
  forward : date.range.1 ≤ date.range.2
  counted : 0 < date.range.2

theorem forward_of_exists {date : Date} (hexists : ∀ d, date.first = some d → d.Exists)
    (hsingle : date.second = none) : date.range.1 ≤ date.range.2 := by
  have hle : date.firstDay ≤ date.lastDay := by
    rw [firstDay, lastDay, hsingle]
    cases hfirst : date.first with
    | none => exact Int.le_refl _
    | some d => exact (hexists d hfirst).firstDay_le_lastDay
  unfold range
  split
  · exact Int.le_refl _
  · exact Int.le_refl _
  · exact hle

/-- **A value with a single calendar date does not end before it starts.** -/
theorem forward_of_single {text : String} (h : (parse text).second = none) :
    (parse text).range.1 ≤ (parse text).range.2 :=
  forward_of_exists (fun _ => exists_of_parse) h

section

variable {a b c : Date}

/-- A date is less than those that it lies before. -/
theorem compare_eq_lt_iff (ha : a.range.1 ≤ a.range.2) (hb : b.range.1 ≤ b.range.2) :
    compare a b = .lt ↔ Precedes a b := by
  unfold compare Precedes
  dsimp only
  split_ifs <;> simp <;> omega

/-- A date is greater than those that lie before it, if their end counts. -/
theorem compare_eq_gt_iff (ha : a.range.1 ≤ a.range.2) (hb : b.range.1 ≤ b.range.2) :
    compare a b = .gt ↔ Precedes b a ∧ 0 < b.range.2 := by
  unfold compare Precedes
  dsimp only
  split_ifs <;> simp <;> omega

theorem Precedes.trans (hab : Precedes a b) (hbc : Precedes b c) : Precedes a c := by
  unfold Precedes at *
  omega

theorem Precedes.asymm (hab : Precedes a b) : ¬ Precedes b a := by
  unfold Precedes at *
  omega

/-- **The order can be turned around exactly where the earlier date has an end that counts.** -/
theorem compare_swap_iff (ha : a.range.1 ≤ a.range.2) (hb : b.range.1 ≤ b.range.2) :
    compare b a = (compare a b).swap ↔
      (Precedes a b → 0 < a.range.2) ∧ (Precedes b a → 0 < b.range.2) := by
  have hlt := compare_eq_lt_iff ha hb
  have hgt := compare_eq_gt_iff ha hb
  have hlt' := compare_eq_lt_iff hb ha
  have hgt' := compare_eq_gt_iff hb ha
  by_cases hab : Precedes a b
  · have hba := hab.asymm
    rw [hlt.mpr hab, Ordering.swap_lt, hgt']
    simp [hab, hba]
  · by_cases hba : Precedes b a
    · rw [hlt'.mpr hba, eq_comm, Ordering.swap_eq_lt, hgt]
      simp [hab, hba]
    · have heq : compare a b = .eq := by
        cases hcompare : compare a b with
        | eq => rfl
        | lt => exact absurd (hlt.mp hcompare) hab
        | gt => exact absurd (hgt.mp hcompare).1 hba
      have heq' : compare b a = .eq := by
        cases hcompare : compare b a with
        | eq => rfl
        | lt => exact absurd (hlt'.mp hcompare) hba
        | gt => exact absurd (hgt'.mp hcompare).1 hab
      simp [heq, heq', hab, hba]

/-- Dates that start on the same day are equal, and so are those of which one encloses the
other. -/
theorem compare_eq_eq_iff (ha : a.Sound) (hb : b.Sound) :
    compare a b = .eq ↔ a.range.1 = b.range.1 ∨ Encloses a b ∨ Encloses b a := by
  have hlt := compare_eq_lt_iff ha.forward hb.forward
  have hgt := compare_eq_gt_iff ha.forward hb.forward
  have hcounted := hb.counted
  unfold Precedes at hlt hgt
  unfold Encloses
  cases hcompare : compare a b <;>
    simp only [hcompare, reduceCtorEq, true_iff, false_iff] at hlt hgt ⊢ <;> omega

/-- **The order of dates whose ranges are sound.** It can be turned around; what is less than
something less is less; and what is equal to something equal is equal, unless two of them that
are compared start on different days and one encloses the other. -/
theorem compare_sound (ha : a.Sound) (hb : b.Sound) (hc : c.Sound) :
    compare b a = (compare a b).swap ∧
    (compare a b = .lt → compare b c = .lt → compare a c = .lt) ∧
    (compare a b = .eq → compare b c = .eq →
      compare a c = .eq ∨ (Encloses a b ∨ Encloses b a) ∨ Encloses b c ∨ Encloses c b) := by
  refine ⟨?_, fun hab hbc => ?_, fun hab hbc => ?_⟩
  · exact (compare_swap_iff ha.forward hb.forward).mpr ⟨fun _ => ha.counted, fun _ => hb.counted⟩
  · rw [compare_eq_lt_iff ha.forward hb.forward] at hab
    rw [compare_eq_lt_iff hb.forward hc.forward] at hbc
    exact (compare_eq_lt_iff ha.forward hc.forward).mpr (hab.trans hbc)
  · -- days of start can be chained, but one date enclosing another cannot
    rcases (compare_eq_eq_iff ha hb).mp hab with hstart | hencloses
    · rcases (compare_eq_eq_iff hb hc).mp hbc with hstart' | hencloses
      · exact .inl ((compare_eq_eq_iff ha hc).mpr (.inl (hstart.trans hstart')))
      · exact .inr (.inr hencloses)
    · exact .inr (.inl hencloses)

end

/-- What lies before a year comes before what lies after it. -/
theorem compare_sound_years :
    (parse "BEF 1900").Sound ∧ (parse "1900").Sound ∧ (parse "AFT 1900").Sound ∧
      compare (parse "BEF 1900") (parse "AFT 1900") = .lt ∧
      compare (parse "1900") (parse "BEF 1900") = .gt := by
  have hbefore : (parse "BEF 1900").Sound :=
    ⟨forward_of_single (by decide +kernel), by decide +kernel⟩
  have hyear : (parse "1900").Sound :=
    ⟨forward_of_single (by decide +kernel), by decide +kernel⟩
  have hafter : (parse "AFT 1900").Sound :=
    ⟨forward_of_single (by decide +kernel), by decide +kernel⟩
  have hlt : compare (parse "BEF 1900") (parse "1900") = .lt := by decide +kernel
  obtain ⟨hswap, htrans, -⟩ := compare_sound hbefore hyear hafter
  exact ⟨hbefore, hyear, hafter, htrans hlt (by decide +kernel), by rw [hswap, hlt]; rfl⟩

/-- **The order of all dates has none of these properties.** A date without a calendar date is less
than one with, but that one is equal to it; a range that is given the wrong way round comes after
the years before its start and before the years behind its end, which are earlier; and two ranges
may enclose the same date, although one is less than the other. -/
theorem compare_not_consistent :
    (¬ ∀ s t, compare (parse t) (parse s) = (compare (parse s) (parse t)).swap) ∧
    (¬ ∀ s t u, compare (parse s) (parse t) = .lt → compare (parse t) (parse u) = .lt →
      compare (parse s) (parse u) = .lt) ∧
    ¬ ∀ s t u, compare (parse s) (parse t) = .eq → compare (parse t) (parse u) = .eq →
      compare (parse s) (parse u) = .eq := by
  refine ⟨fun h => ?_, fun h => ?_, fun h => ?_⟩
  · exact absurd (h "" "1 JAN 1800") (by decide +kernel)
  · exact absurd (h "1910" "BET 1912 AND 1903" "1905" (by decide +kernel) (by decide +kernel))
      (by decide +kernel)
  · exact absurd (h "BET 1900 AND 1910" "1905" "BET 1902 AND 1912" (by decide +kernel)
      (by decide +kernel)) (by decide +kernel)

end Date

end Lineage
