import Lineage.Date.Range
import Lineage.Proofs.Date.Order
import Lineage.Proofs.Date.Reading

/-!
# The dates of a range

A range is read with one calendar for both of its dates, the last one that an escape names. So
it is made of its two dates if these are in the same calendar; but a date in one calendar and
one in the other are both taken to be in that of the second escape, or in that of the first if
there is no other.

> `parse_range`: what a range of two single dates is read as.

Dates in different calendars, whose range is not made of them, are in
`not_parse_range_of_calendars`.
-/

namespace Lineage

namespace CalendarDate

/-- The same words in another calendar give the same day, month and year, if the day exists. -/
theorem ofWords?_of_calendar {calendar : Calendar} {words : List String} {date : CalendarDate}
    (h : ofWords? calendar words = some date) (other : Calendar) :
    ofWords? other words = date.inCalendar? other ∧ date.calendar = calendar := by
  rcases words with _ | ⟨first, _ | ⟨second, _ | ⟨third, _ | ⟨fourth, more⟩⟩⟩⟩
  · cases h
  · rw [ofWords?_year] at h ⊢
    obtain ⟨year, hyear, rfl⟩ := Option.map_eq_some_iff.mp h
    rw [hyear]
    exact ⟨rfl, rfl⟩
  · rw [ofWords?_month] at h ⊢
    obtain ⟨month, hmonth, h⟩ := Option.bind_eq_some_iff.mp h
    obtain ⟨year, hyear, rfl⟩ := Option.map_eq_some_iff.mp h
    rw [hmonth, Option.bind_some, hyear]
    exact ⟨rfl, rfl⟩
  · rw [ofWords?_day] at h ⊢
    obtain ⟨day, hday, h⟩ := Option.bind_eq_some_iff.mp h
    obtain ⟨month, hmonth, h⟩ := Option.bind_eq_some_iff.mp h
    obtain ⟨year, hyear, h⟩ := Option.bind_eq_some_iff.mp h
    rw [hday, Option.bind_some, hmonth, Option.bind_some, hyear, Option.bind_some]
    split_ifs at h with hbounds
    cases h
    refine ⟨?_, rfl⟩
    show _ = if day ≤ other.monthLength year month then _ else none
    by_cases hlength : day ≤ other.monthLength year month
    · rw [if_pos ⟨hbounds.1, hlength⟩, if_pos hlength]
    · rw [if_neg fun hboth => hlength hboth.2, if_neg hlength]
  · cases h

/-- A date is itself in its own calendar. -/
theorem Exists.inCalendar?_self {date : CalendarDate} (h : date.Exists) :
    date.inCalendar? date.calendar = some date := by
  obtain ⟨calendar, day, month, year⟩ := date
  cases day with
  | none => rfl
  | some day =>
    obtain ⟨month, rfl, hbounds⟩ := h.day day rfl
    exact if_pos hbounds.2

end CalendarDate

namespace Date

section

variable {text : String} {date : CalendarDate} (h : IsSingle text date)

include h

theorem calendar_of_isSingle : date.calendar = (escape? text).getD .gregorian :=
  (CalendarDate.ofWords?_of_calendar (parse_of_isSingle h).1 .gregorian).2

theorem days_of_isSingle :
    (parse text).firstDay = date.firstDay ∧ (parse text).lastDay = date.lastDay := by
  unfold firstDay lastDay
  rw [h.first, (parse_of_isSingle h).2]
  exact ⟨rfl, rfl⟩

end

/-! ## The words of a range -/

section

variable (form : RangeForm)

theorem toList_written (x y : String) :
    (form.written x y).toList =
      form.opening.toList ++
        ' ' :: (x.toList ++ ' ' :: (form.middle.toList ++ ' ' :: y.toList)) := by
  simp [RangeForm.written]

/-- A keyword of a range is a word in upper case. -/
theorem words_upper_keyword (rest : List Char) :
    Chars.words (Chars.upper (form.opening.toList ++ ' ' :: rest)) =
        form.opening.toList :: Chars.words (Chars.upper rest) ∧
      Chars.words (Chars.upper (form.middle.toList ++ ' ' :: rest)) =
        form.middle.toList :: Chars.words (Chars.upper rest) := by
  have hspace : Chars.upperChar ' ' = [' '] := rfl
  rw [Chars.upper_append, Chars.upper_append, Chars.upper_cons, hspace, List.singleton_append,
    Chars.words_append_blank rfl, Chars.words_append_blank rfl]
  cases form with
  | between => exact ⟨rfl, rfl⟩
  | fromTo => exact ⟨rfl, rfl⟩

/-- The words of a range are those of its dates with the keywords in front. A phrase of the
first date takes in all that follows. -/
theorem dateWords_written (x y : String) :
    dateWords (form.written x y) =
      if '(' ∈ x.toList then form.opening :: dateWords x
      else form.opening :: (dateWords x ++ form.middle :: dateWords y) := by
  have hkeep : ∀ c ∈ form.opening.toList ++ [' '], (c != '(') = true := by
    rw [← List.all_eq_true]
    cases form with
    | between => decide
    | fromTo => decide
  have hkeep' : ∀ c ∈ ' ' :: (form.middle.toList ++ [' ']), (c != '(') = true := by
    rw [← List.all_eq_true]
    cases form with
    | between => decide
    | fromTo => decide
  simp only [dateWords, Text.words, Text.upper, String.toList_ofList]
  rw [toList_written, List.append_cons, List.takeWhile_append_of_pos hkeep, List.append_assoc,
    List.singleton_append]
  rw [(words_upper_keyword form _).1, List.map_cons, String.ofList_toList]
  by_cases hphrase : '(' ∈ x.toList
  · obtain ⟨body, more, happend, hbody⟩ := List.eq_append_cons_of_mem hphrase
    have hbody' : ∀ c ∈ body, (c != '(') = true := fun c hc =>
      bne_iff_ne.mpr (ne_of_mem_of_not_mem hc hbody)
    rw [if_pos hphrase, happend, List.append_assoc, List.takeWhile_append_of_pos hbody',
      List.takeWhile_append_of_pos hbody']
    rfl
  · have hx : ∀ c ∈ x.toList, (c != '(') = true := fun c hc =>
      bne_iff_ne.mpr (ne_of_mem_of_not_mem hc hphrase)
    have hboth : ∀ rest, x.toList ++ ' ' :: (form.middle.toList ++ ' ' :: rest) =
        (x.toList ++ ' ' :: (form.middle.toList ++ [' '])) ++ rest := by
      intro rest
      simp
    have hkeepBoth : ∀ c ∈ x.toList ++ ' ' :: (form.middle.toList ++ [' ']), (c != '(') = true := by
      intro c hc
      rcases List.mem_append.mp hc with hcx | hcm
      · exact hx c hcx
      · exact hkeep' c hcm
    have hspace : Chars.upperChar ' ' = [' '] := rfl
    rw [if_neg hphrase, hboth, List.takeWhile_append_of_pos hkeepBoth, ← hboth,
      Chars.upper_append, Chars.upper_cons, hspace, List.singleton_append,
      Chars.words_append_blank rfl, (words_upper_keyword form _).2, List.map_append, List.map_cons,
      String.ofList_toList, List.takeWhile_eq_self_iff.mpr hx]

/-- The first keyword opens a part with its qualifier. -/
theorem Reading.readWord_opening :
    ({} : Reading).readWord form.opening = { qualifier := some form.qualifiers.1 } := by
  cases form with
  | between => exact Reading.readWord_qualifier rfl (by decide) rfl
  | fromTo => exact Reading.readWord_qualifier rfl (by decide) rfl

/-- The second keyword closes the first part and opens the second. -/
theorem Reading.readWord_middle (calendar : Calendar) (words : List String) (q : Qualifier) :
    Reading.readWord { calendar := calendar, qualifier := some q, words := words } form.middle =
      { calendar := calendar
        parts := [(some q, words)]
        qualifier := some form.qualifiers.2 } := by
  have hclose : Reading.closePart { calendar := calendar, qualifier := some q, words := words } =
      { calendar := calendar, parts := [(some q, words)] } := Reading.closePart_eq (.inr rfl)
  cases form with
  | between =>
    refine (Reading.readWord_qualifier rfl (by decide) (show _ = some Qualifier.and from rfl)).trans ?_
    rw [hclose]
    rfl
  | fromTo =>
    refine (Reading.readWord_qualifier rfl (by decide) (show _ = some Qualifier.to from rfl)).trans ?_
    rw [hclose]
    rfl

section

variable {first : List String} (hfirst : ∀ word ∈ first, IsDateWord word)

include hfirst

/-- The first date of a range, up to where the second one follows. -/
theorem Reading.foldl_opening :
    (form.opening :: first).foldl Reading.readWord {} =
      { calendar := (lastEscape? first).getD .gregorian
        qualifier := some form.qualifiers.1
        words := plainWords first } := by
  rw [List.foldl_cons, readWord_opening, foldl_readWord rfl hfirst]
  rfl

/-- **The reading of a range**: the two dates with their qualifiers, in the calendar that is
named last. -/
theorem Reading.ofWords_range {second : List String}
    (hsecond : ∀ word ∈ second, IsDateWord word) :
    Reading.ofWords (form.opening :: (first ++ form.middle :: second)) =
      { calendar := (lastEscape? second).getD ((lastEscape? first).getD .gregorian)
        parts := [(some form.qualifiers.1, plainWords first),
          (some form.qualifiers.2, plainWords second)] } := by
  unfold ofWords
  rw [← List.cons_append, List.foldl_append, foldl_opening form hfirst, List.foldl_cons,
    readWord_middle, foldl_readWord rfl hsecond, closePart_eq (.inr rfl)]
  rfl

/-- The reading of a range whose second date is part of a phrase. -/
theorem Reading.ofWords_opening :
    Reading.ofWords (form.opening :: first) =
      { calendar := (lastEscape? first).getD .gregorian
        parts := [(some form.qualifiers.1, plainWords first)] } := by
  unfold ofWords
  rw [foldl_opening form hfirst, closePart_eq (.inr rfl)]
  rfl

end

end

/-! ## What a range is read as -/

/-- **A range of two single dates** is read as them, both in the calendar that is named last;
so it starts and ends with them if they are in the same calendar. A phrase behind the first
date takes in the second one. -/
theorem parse_range (form : RangeForm) {x y : String} {dx dy : CalendarDate}
    (hx : IsSingle x dx) (hy : IsSingle y dy) :
    (parse (form.written x y)).qualifier = some form.qualifiers.1 ∧
    ('(' ∈ x.toList → (parse (form.written x y)).first = some dx ∧
      (parse (form.written x y)).second = none) ∧
    ('(' ∉ x.toList →
      (parse (form.written x y)).first = dx.inCalendar? ((escape? y).getD dx.calendar) ∧
      (parse (form.written x y)).second = dy.inCalendar? ((escape? y).getD dx.calendar) ∧
      (dx.calendar = dy.calendar →
        (parse (form.written x y)).isValid = true ∧
        (parse (form.written x y)).firstDay = (parse x).firstDay ∧
        (parse (form.written x y)).lastDay = (parse y).lastDay)) := by
  have hwords := dateWords_written form x y
  have hxWords := isDateWord_of_isSingle hx
  have hyWords := isDateWord_of_isSingle hy
  have hxRead := (parse_of_isSingle hx).1
  have hyRead := (parse_of_isSingle hy).1
  have hxCalendar := calendar_of_isSingle hx
  have hyCalendar := calendar_of_isSingle hy
  by_cases hphrase : '(' ∈ x.toList
  · rw [if_pos hphrase] at hwords
    have hreading := Reading.ofWords_opening form hxWords
    rw [← hwords, ← escape?] at hreading
    obtain ⟨hqualifier, hfirst, -, hsecond⟩ := parse_of_part hreading rfl rfl
    dsimp only at hfirst
    exact ⟨hqualifier, fun _ => ⟨hfirst.trans hxRead, hsecond⟩, fun hnone => absurd hphrase hnone⟩
  · rw [if_neg hphrase] at hwords
    have hreading := Reading.ofWords_range form hxWords hyWords
    rw [← hwords, ← escape?, ← escape?, ← hxCalendar] at hreading
    obtain ⟨hqualifier, hfirst, -, hsecond⟩ := parse_of_parts hreading rfl rfl
    -- both dates are read again from their words, in the calendar of the range
    dsimp only at hfirst hsecond
    have hfirst' := hfirst.trans (CalendarDate.ofWords?_of_calendar hxRead _).1
    have hsecond' := hsecond.trans (CalendarDate.ofWords?_of_calendar hyRead _).1
    refine ⟨hqualifier, fun hsome => absurd hsome hphrase, fun _ => ⟨hfirst', hsecond', ?_⟩⟩
    intro hsame
    have hshared : (escape? y).getD dx.calendar = dy.calendar := by
      cases hescape : escape? y with
      | some calendar =>
        rw [hescape] at hyCalendar
        exact hyCalendar.symm
      | none => exact hsame
    rw [hshared, ← hsame, (exists_of_parse hx.first).inCalendar?_self] at hfirst'
    rw [hshared, (exists_of_parse hy.first).inCalendar?_self] at hsecond'
    refine ⟨?_, ?_, ?_⟩
    · rw [isValid, hfirst']
      rfl
    · rw [(days_of_isSingle hx).1, firstDay, hfirst']
    · rw [(days_of_isSingle hy).2, lastDay, hsecond']

/-- Two dates of the Julian calendar, the second with a phrase. -/
theorem parse_range_julian :
    IsSingle "@#DJULIAN@ 29 FEB 1700" ⟨.julian, some 29, some 2, 1700⟩ ∧
    IsSingle "@#DJULIAN@ MAR 1700 (lent)" ⟨.julian, none, some 3, 1700⟩ ∧
    '(' ∉ "@#DJULIAN@ 29 FEB 1700".toList ∧
    (parse "BET @#DJULIAN@ 29 FEB 1700 AND @#DJULIAN@ MAR 1700 (lent)").isValid = true ∧
    (parse "BET @#DJULIAN@ 29 FEB 1700 AND @#DJULIAN@ MAR 1700 (lent)").firstDay = 2342042 ∧
    (parse "BET @#DJULIAN@ 29 FEB 1700 AND @#DJULIAN@ MAR 1700 (lent)").lastDay = 2342073 := by
  have hx : IsSingle "@#DJULIAN@ 29 FEB 1700" ⟨.julian, some 29, some 2, 1700⟩ :=
    ⟨by decide +kernel, by decide +kernel, by decide +kernel⟩
  have hy : IsSingle "@#DJULIAN@ MAR 1700 (lent)" ⟨.julian, none, some 3, 1700⟩ :=
    ⟨by decide +kernel, by decide +kernel, by decide +kernel⟩
  have hplain : '(' ∉ "@#DJULIAN@ 29 FEB 1700".toList := by decide
  obtain ⟨-, -, hrange⟩ := parse_range .between hx hy
  obtain ⟨-, -, hsame⟩ := hrange hplain
  obtain ⟨hvalid, hfirst, hlast⟩ := hsame rfl
  exact ⟨hx, hy, hplain, hvalid, hfirst.trans (by decide +kernel), hlast.trans (by decide +kernel)⟩

/-- **A range is not made of dates in different calendars.** A date without an escape is in the
Gregorian calendar, but behind one of the Julian calendar it is taken to be in that one; a date
of the Julian calendar is taken to be in the Gregorian one if that is named behind it, where it
may not exist. -/
theorem not_parse_range_of_calendars :
    (parse "BET @#DJULIAN@ 1700 AND 1701").lastDay ≠ (parse "1701").lastDay ∧
    (parse "BET 1700 AND @#DJULIAN@ 1701").firstDay ≠ (parse "1700").firstDay ∧
    (parse "FROM @#DJULIAN@ 29 FEB 1700 TO @#DGREGORIAN@ 1701").isValid = false := by
  refine ⟨?_, ?_, ?_⟩
  · decide +kernel
  · decide +kernel
  · decide +kernel

end Date

end Lineage
