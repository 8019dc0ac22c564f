import Lineage.Date.Display
import Lineage.Proofs.Date.Calendar
import Lineage.Proofs.Date.Order
import Lineage.Proofs.Date.Reading
import Lineage.Proofs.Decimal.Whole

/-!
# Written dates read back

A day of the calendar is written as three words: the day in two digits, the month by its keyword
and the year with its sign. None of them is changed by upper case, starts a phrase, names a
calendar or is a qualifier, so they are read as the day again. A single day starts and ends on
the same number, and so two written days compare like their numbers.

> `parse_written`: the day that is read is the one that was written.
-/

namespace Lineage

namespace Date

/-! ## Three words of a date -/

/-- Whether a text is a word that a value keeps as it is and that belongs to its date. -/
structure IsPlainWord (word : String) : Prop where
  ne_nil : word.toList ≠ []
  isWord : Chars.IsWord word.toList
  noPhrase : '(' ∉ word.toList
  upper : Chars.upper word.toList = word.toList
  noEscape : Text.startsWith "@#D" word = false
  unqualified : Qualifier.ofKeyword? word = none

/-- A word that starts like no escape is none. -/
theorem ofEscape?_eq_none {word : String} (h : Text.startsWith "@#D" word = false) :
    Calendar.ofEscape? word = none := by
  cases hescape : Calendar.ofEscape? word with
  | none => rfl
  | some calendar =>
    rcases Reading.eq_of_ofEscape? hescape with ⟨rfl, -⟩ | ⟨rfl, -⟩
    · exact absurd h (by decide)
    · exact absurd h (by decide)

section

variable {a b c : String} (ha : IsPlainWord a) (hb : IsPlainWord b) (hc : IsPlainWord c)

include ha hb hc

theorem dateWords_of_plain : dateWords (a ++ " " ++ b ++ " " ++ c) = [a, b, c] := by
  have htext : (a ++ " " ++ b ++ " " ++ c).toList =
      a.toList ++ ' ' :: (b.toList ++ ' ' :: c.toList) := by
    simp
  have hspace : Chars.upperChar ' ' = [' '] := rfl
  have hkeep : ∀ d ∈ a.toList ++ ' ' :: (b.toList ++ ' ' :: c.toList), (d != '(') = true := by
    intro d hd
    rw [bne_iff_ne]
    rintro rfl
    simp [ha.noPhrase, hb.noPhrase, hc.noPhrase] at hd
  rw [dateWords, htext, List.takeWhile_eq_self_iff.mpr hkeep, Text.words, Text.upper,
    String.toList_ofList, String.toList_ofList, Chars.upper_append, Chars.upper_cons, hspace,
    List.singleton_append, Chars.upper_append, Chars.upper_cons, hspace, List.singleton_append,
    ha.upper, hb.upper, hc.upper, Chars.words_append_blank rfl, Chars.words_append_blank rfl,
    Chars.words_of_isWord ha.ne_nil ha.isWord, Chars.words_of_isWord hb.ne_nil hb.isWord,
    Chars.words_of_isWord hc.ne_nil hc.isWord]
  simp

/-- **Three words of a date** are read as a single date of the Gregorian calendar. -/
theorem parse_of_plain :
    (parse (a ++ " " ++ b ++ " " ++ c)).qualifier = none ∧
      (parse (a ++ " " ++ b ++ " " ++ c)).first = CalendarDate.ofWords? .gregorian [a, b, c] ∧
      (parse (a ++ " " ++ b ++ " " ++ c)).second = none := by
  have hdate : ∀ word ∈ [a, b, c], IsDateWord word ∧ Calendar.ofEscape? word = none := by
    intro word hword
    have hplain : IsPlainWord word := by
      rcases List.mem_cons.mp hword with rfl | hword
      · exact ha
      · rcases List.mem_cons.mp hword with rfl | hword
        · exact hb
        · rwa [List.mem_singleton.mp hword]
    exact ⟨.inr ⟨hplain.noEscape, hplain.unqualified⟩, ofEscape?_eq_none hplain.noEscape⟩
  have hplain : plainWords [a, b, c] = [a, b, c] := by
    refine List.filter_eq_self.mpr fun word hword => ?_
    rw [(hdate word hword).2]
    rfl
  have hescape : lastEscape? [a, b, c] = none := by
    have hnone : [a, b, c].filterMap Calendar.ofEscape? = [] :=
      List.filterMap_eq_nil_iff.mpr fun word hword => (hdate word hword).2
    rw [lastEscape?, hnone]
    rfl
  have hreading : Reading.ofWords (dateWords (a ++ " " ++ b ++ " " ++ c)) =
      { calendar := .gregorian, parts := [(none, [a, b, c])] } := by
    have hsome : plainWords [a, b, c] ≠ [] := by
      rw [hplain]
      exact List.cons_ne_nil a [b, c]
    rw [dateWords_of_plain ha hb hc,
      Reading.ofWords_single (fun word hword => (hdate word hword).1) hsome, hescape, hplain]
    rfl
  obtain ⟨hqualifier, hfirst, -, hsecond⟩ := parse_of_part hreading rfl rfl
  exact ⟨hqualifier, hfirst, hsecond⟩

end

/-! ## The day, the month and the year -/

/-- The characters of written dates. -/
def isWritten (c : Char) : Bool :=
  c.isDigit || c.isUpper || c == '-'

theorem isWritten_bounds {c : Char} (h : isWritten c = true) : 45 ≤ c.toNat ∧ c.toNat ≤ 90 := by
  simp only [isWritten, Bool.or_eq_true, Chars.isDigit_iff, Chars.isUpper_iff, beq_iff_eq] at h
  rcases h with (hdigit | hupper) | rfl
  · omega
  · omega
  · decide

theorem upperChar_of_isWritten {c : Char} (h : isWritten c = true) : Chars.upperChar c = [c] := by
  have hall : ∀ n < 91, Chars.upperChar (Char.ofNat n) = [Char.ofNat n] := by decide +kernel
  have hbounds := isWritten_bounds h
  have hc := hall c.toNat (by omega)
  rwa [Char.ofNat_toNat] at hc

theorem isPlainWord_of_isWritten {word : String} (hne : word.toList ≠ [])
    (h : ∀ c ∈ word.toList, isWritten c = true) (hnone : Qualifier.ofKeyword? word = none) :
    IsPlainWord word where
  ne_nil := hne
  isWord := by
    intro c hc
    have hbounds := isWritten_bounds (h c hc)
    simp only [Chars.isBlank, Bool.or_eq_false_iff, Bool.and_eq_false_iff, decide_eq_false_iff_not,
      beq_eq_false_iff_ne]
    omega
  noPhrase := fun hc => absurd (h '(' hc) (by decide)
  upper := Chars.upper_of_forall fun c hc => upperChar_of_isWritten (h c hc)
  noEscape := by
    rw [Bool.eq_false_iff]
    intro hstart
    obtain ⟨rest, hrest⟩ := Chars.isSome_after?_iff.mp hstart
    have hat : '@' ∈ word.toList := by
      rw [← hrest]
      simp
    exact absurd (h '@' hat) (by decide)
  unqualified := hnone

/-- The keyword of a month. -/
theorem isPlainWord_month {month : Nat} (hmonth : 1 ≤ month ∧ month ≤ 12) :
    IsPlainWord (monthKeywords.getD (month - 1) "") ∧
      month? (monthKeywords.getD (month - 1) "") = some month := by
  have hall : ∀ index < 12,
      monthKeywords.getD index "" ≠ "" ∧
        (monthKeywords.getD index "").toList.all isWritten = true ∧
        Qualifier.ofKeyword? (monthKeywords.getD index "") = none ∧
        month? (monthKeywords.getD index "") = some (index + 1) := by
    decide +kernel
  obtain ⟨hne, hwritten, hnone, hnumber⟩ := hall (month - 1) (by omega)
  rw [Nat.sub_add_cancel hmonth.1] at hnumber
  refine ⟨isPlainWord_of_isWritten ?_ (List.all_eq_true.mp hwritten) hnone, hnumber⟩
  intro hnil
  exact hne (String.toList_eq_nil_iff.mp hnil)

/-- A number is a word of a date, since the keywords of qualifiers have letters. -/
theorem isPlainWord_number {word : String} (hne : word.toList ≠ [])
    (h : ∀ c ∈ word.toList, c.isDigit = true ∨ c = '-') : IsPlainWord word := by
  have hall : word.toList.all (fun c => c.isDigit || c == '-') = true := by
    rw [List.all_eq_true]
    intro c hc
    simpa using h c hc
  refine isPlainWord_of_isWritten hne (fun c hc => ?_) ?_
  · rcases h c hc with hdigit | rfl
    · simp [isWritten, hdigit]
    · rfl
  · unfold Qualifier.ofKeyword?
    split
    case h_11 => rfl
    all_goals exact absurd hall (by decide)

end Date

namespace CalendarDate

/-- **A written day is read as that day.** -/
theorem ofWords?_written {year : Int} {month day : Nat} {n : Int}
    (h : Calendar.commonEraDay? year month day = some n) :
    ofWords? .gregorian
        [Decimal.padded 2 day, monthKeywords.getD (month - 1) "", toString year] =
      some ⟨.gregorian, some day, some month, year⟩ := by
  obtain ⟨hcovers, hmonth, hday, -⟩ := Calendar.commonEraDay?_eq_some_iff.mp h
  simp only [Calendar.covers, Bool.and_eq_true, decide_eq_true_eq] at hcovers
  have hshort : Calendar.gregorian.monthLength year month ≤ 31 := by
    unfold Calendar.monthLength
    split
    · split <;> omega
    all_goals omega
  have hpow : Nat.pow 2 32 = 4294967296 := rfl
  have hpow' : Nat.pow 2 (32 - 1) = 2147483648 := rfl
  have hdayRead : Decimal.natural? 32 (Decimal.padded 2 day).toList = some day :=
    Decimal.natural?_of_digits (Decimal.ofDigits?_padded 2 day) (by omega)
  have hyearRead : year? (toString year) = some year := by
    have hall : ∀ c ∈ (toString year).toList, (c != '/') = true := by
      intro c hc
      rcases (Decimal.chars_toString year).2 c hc with hdigit | rfl
      · exact bne_iff_ne.mpr (Chars.ne_of_holds hdigit rfl)
      · rfl
    rw [year?, List.takeWhile_eq_self_iff.mpr hall, Decimal.integer?_toString (by omega)]
  rw [ofWords?_day, hdayRead, (Date.isPlainWord_month hmonth).2, hyearRead]
  exact if_pos hday

end CalendarDate

namespace Date

section

variable {year : Int} {month day : Nat} {n : Int}
  (h : Calendar.commonEraDay? year month day = some n)

include h

/-- **What is written is read again.** -/
theorem written_eq :
    (parse (written year month day)).qualifier = none ∧
      (parse (written year month day)).first = some ⟨.gregorian, some day, some month, year⟩ ∧
      (parse (written year month day)).second = none := by
  obtain ⟨-, hmonth, -, -⟩ := Calendar.commonEraDay?_eq_some_iff.mp h
  have hday : IsPlainWord (Decimal.padded 2 day) :=
    isPlainWord_number (Decimal.padded_ne_nil 2 day) fun c hc =>
      .inl (Decimal.isDigit_of_mem_padded hc)
  have hyear : IsPlainWord (toString year) :=
    isPlainWord_number (Decimal.chars_toString year).1 (Decimal.chars_toString year).2
  obtain ⟨hqualifier, hfirst, hsecond⟩ := parse_of_plain hday (isPlainWord_month hmonth).1 hyear
  exact ⟨hqualifier, hfirst.trans (CalendarDate.ofWords?_written h), hsecond⟩

/-- A written day starts and ends on its number. -/
theorem range_written :
    (parse (written year month day)).firstDay = n + Calendar.commonEraEpoch ∧
      (parse (written year month day)).lastDay = n + Calendar.commonEraEpoch ∧
      (parse (written year month day)).range =
        (n + Calendar.commonEraEpoch, n + Calendar.commonEraEpoch) := by
  obtain ⟨hqualifier, hfirst, hsecond⟩ := written_eq h
  have hnumber : Calendar.gregorian.dayNumber year month day = n + Calendar.commonEraEpoch := by
    rw [Calendar.dayNumber, h]
  have hfirstDay : (parse (written year month day)).firstDay = n + Calendar.commonEraEpoch := by
    rw [firstDay, hfirst]
    exact hnumber
  have hlastDay : (parse (written year month day)).lastDay = n + Calendar.commonEraEpoch := by
    rw [lastDay, hsecond, hfirst]
    exact hnumber
  refine ⟨hfirstDay, hlastDay, ?_⟩
  rw [range, hqualifier, hfirstDay, hlastDay]

end

/-- Single days compare like their numbers, if these are positive. -/
theorem compare_of_range {a b : Date} {m n : Int} (ha : a.range = (m, m)) (hb : b.range = (n, n))
    (hpos : 0 < n) : compare a b = Ord.compare m n := by
  rw [compare, ha, hb]
  dsimp only
  rcases Int.lt_trichotomy m n with hlt | rfl | hgt
  · rw [if_pos hlt]
    exact (Int.compare_eq_lt.mpr hlt).symm
  · rw [if_neg (by omega), if_neg (by omega), if_neg (by omega), if_neg (by omega)]
    exact (Int.compare_eq_eq.mpr rfl).symm
  · rw [if_neg (by omega), if_pos ⟨hgt, hpos⟩]
    exact (Int.compare_eq_gt.mpr hgt).symm

/-- **A written day is read as the day that was written.** It is a valid date without a qualifier,
which starts and ends on the day's number, and it compares with another written day like the two
days, if their numbers are positive. -/
theorem parse_written {year : Int} {month day : Nat} {n : Int}
    (h : Calendar.commonEraDay? year month day = some n) :
    (parse (written year month day)).isValid = true ∧
    (parse (written year month day)).qualifier = none ∧
    (parse (written year month day)).firstDay = n + 1721425 ∧
    (parse (written year month day)).lastDay = n + 1721425 ∧
    ∀ (year' : Int) (month' day' : Nat) (n' : Int),
      Calendar.commonEraDay? year' month' day' = some n' → 0 < n + 1721425 → 0 < n' + 1721425 →
        compare (parse (written year month day)) (parse (written year' month' day')) =
          Ord.compare n n' := by
  obtain ⟨hqualifier, hfirst, -⟩ := written_eq h
  obtain ⟨hfirstDay, hlastDay, hrange⟩ := range_written h
  refine ⟨?_, hqualifier, hfirstDay, hlastDay, ?_⟩
  · rw [isValid, hfirst]
    rfl
  · intro year' month' day' n' h' hpos hpos'
    rw [compare_of_range hrange (range_written h').2.2 hpos', Int.compare_eq_ite_lt,
      Int.compare_eq_ite_lt]
    simp only [Int.add_lt_add_iff_right]

/-- The leap day of a year before the common era, and a day of the year 0. -/
theorem parse_written_leapDay :
    Calendar.commonEraDay? (-4) 2 29 = some (-1767) ∧
    Calendar.commonEraDay? 0 1 1 = some (-365) ∧
    (parse "29 FEB -4").isValid = true ∧
    (parse "29 FEB -4").firstDay = 1719658 ∧
    compare (parse "29 FEB -4") (parse "01 JAN 0") = .lt := by
  have hday : Calendar.commonEraDay? (-4) 2 29 = some (-1767) := by decide +kernel
  have hday' : Calendar.commonEraDay? 0 1 1 = some (-365) := by decide +kernel
  have htext : written (-4) 2 29 = "29 FEB -4" := by decide +kernel
  have htext' : written 0 1 1 = "01 JAN 0" := by decide +kernel
  obtain ⟨hvalid, -, hfirst, -, hcompare⟩ := parse_written hday
  have hlt := hcompare 0 1 1 (-365) hday' (by decide) (by decide)
  rw [htext] at hvalid hfirst hlt
  rw [htext'] at hlt
  exact ⟨hday, hday', hvalid, hfirst, hlt⟩

end Date

end Lineage
