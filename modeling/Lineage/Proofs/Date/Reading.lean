import Lineage.Date.Range
import Lineage.Proofs.Text.Words

/-!
# Reading the words of a date

The words of a value are read one by one, up to its phrase. As long as no qualifier comes, each
word either names the calendar or belongs to the date, so that the date of such a value is made
of its other words and is in the calendar of its last escape (`Reading.foldl_readWord`). And if
the value turns out to have a single date without a qualifier, no qualifier can have come
(`Reading.isDateWord_of_clean`).
-/

namespace Lineage

/-! ## The words of a date -/

namespace CalendarDate

variable (calendar : Calendar) (day month year : String)

/-- The year that a word stands for; of a dual year the first counts. -/
def year? (word : String) : Option Int :=
  Decimal.integer? 32 (word.toList.takeWhile (· != '/'))

theorem ofWords?_year :
    ofWords? calendar [year] = (year? year).map fun y => ⟨calendar, none, none, y⟩ := by
  show (year? year).bind _ = _
  cases year? year with
  | none => rfl
  | some y => rfl

theorem ofWords?_month :
    ofWords? calendar [month, year] =
      (month? month).bind fun m => (year? year).map fun y => ⟨calendar, none, some m, y⟩ := by
  show ((month? month).map _).bind _ = _
  cases month? month with
  | none => rfl
  | some m =>
    show (year? year).bind _ = (year? year).map _
    cases year? year with
    | none => rfl
    | some y => rfl

theorem ofWords?_day :
    ofWords? calendar [day, month, year] =
      (Decimal.natural? 32 day.toList).bind fun d => (month? month).bind fun m =>
        (year? year).bind fun y =>
          if 1 ≤ d ∧ d ≤ calendar.monthLength y m then some ⟨calendar, some d, some m, y⟩
          else none := by
  show (Decimal.natural? 32 day.toList).bind _ = _
  cases Decimal.natural? 32 day.toList with
  | none => rfl
  | some d =>
    show (month? month).bind _ = (month? month).bind _
    cases month? month with
    | none => rfl
    | some m => rfl

end CalendarDate

namespace Date

/-! ## The words of a value -/

theorem splitPhrase_fst (raw : String) :
    (splitPhrase raw).1 = .ofList (raw.toList.takeWhile (· != '(')) := by
  unfold splitPhrase
  split
  next hcut =>
    rw [List.takeWhile_eq_self_iff.mpr, String.ofList_toList]
    intro c hc
    rw [bne_iff_ne]
    rintro rfl
    obtain ⟨before, after, happend, hbefore⟩ := List.eq_append_cons_of_mem hc
    rw [happend, Chars.cut?_append hbefore] at hcut
    cases hcut
  next body rest hcut =>
    obtain ⟨happend, hbody⟩ := Chars.cut?_eq_some_iff.mp hcut
    show String.ofList body = _
    rw [happend, Chars.takeWhile_run (fun c hc => ?_) fun c hc => ?_]
    · rw [bne_iff_ne]
      exact ne_of_mem_of_not_mem hc hbody
    · obtain rfl : '(' = c := Option.some.inj hc
      rfl

/-- Blanks at the ends of a text add no words, wherever the phrase starts. -/
theorem words_takeWhile_trim (cs : List Char) :
    Chars.words (Chars.upper ((Chars.trim cs).takeWhile (· != '('))) =
      Chars.words (Chars.upper (cs.takeWhile (· != '('))) := by
  have hkeep : ∀ {blanks : List Char}, (∀ c ∈ blanks, Chars.isBlank c = true) →
      ∀ c ∈ blanks, (c != '(') = true := by
    intro blanks hblanks c hc
    rw [bne_iff_ne]
    exact Chars.ne_of_holds (hblanks c hc) rfl
  obtain ⟨before, behind, hbefore, hbehind, hcs⟩ := Chars.exists_eq_append_trim cs
  conv_rhs => rw [hcs]
  rw [List.takeWhile_append_of_pos (hkeep hbefore), Chars.upper_append, Chars.upper_blanks hbefore,
    Chars.words_blanks_append hbefore]
  by_cases hphrase : '(' ∈ Chars.trim cs
  · -- the phrase starts before the blanks at the end
    obtain ⟨body, rest, happend, hbody⟩ := List.eq_append_cons_of_mem hphrase
    have hbody' : ∀ c ∈ body, (c != '(') = true := fun c hc =>
      bne_iff_ne.mpr (ne_of_mem_of_not_mem hc hbody)
    rw [happend, List.append_assoc, List.takeWhile_append_of_pos hbody',
      List.takeWhile_append_of_pos hbody']
    rfl
  · have hall : ∀ c ∈ Chars.trim cs, (c != '(') = true := fun c hc =>
      bne_iff_ne.mpr (ne_of_mem_of_not_mem hc hphrase)
    rw [List.takeWhile_append_of_pos hall, List.takeWhile_eq_self_iff.mpr (hkeep hbehind),
      List.takeWhile_eq_self_iff.mpr hall, Chars.upper_append, Chars.upper_blanks hbehind,
      Chars.words_append_blanks hbehind]

theorem words_upper_trim (text : String) :
    Text.words (Text.upper (splitPhrase (Text.trim text)).1) = dateWords text := by
  simp only [splitPhrase_fst, dateWords, Text.words, Text.upper, Text.trim, String.toList_ofList,
    words_takeWhile_trim]

/-! ## The parts of a value -/

section

variable {text : String} {reading : Reading}
  (hreading : Reading.ofWords (dateWords text) = reading)

include hreading

/-- A value is what its reading says, apart from its own text and its phrase. -/
theorem parse_eq_of_reading : ∃ raw phrase, parse text =
    if reading.unsupported then { raw, phrase }
    else
      match reading.parts with
      | [] => { raw, phrase }
      | [(q, words)] =>
        { raw, phrase, qualifier := q, first := CalendarDate.ofWords? reading.calendar words }
      | (q₁, words₁) :: (q₂, words₂) :: _ =>
        { raw, phrase
          qualifier := q₁
          first := CalendarDate.ofWords? reading.calendar words₁
          secondQualifier := q₂
          second := CalendarDate.ofWords? reading.calendar words₂ } := by
  unfold parse
  dsimp only
  rw [words_upper_trim, hreading]
  exact ⟨Text.trim text, (splitPhrase (Text.trim text)).2, rfl⟩

theorem first_of_unsupported (h : reading.unsupported = true) : (parse text).first = none := by
  obtain ⟨raw, phrase, heq⟩ := parse_eq_of_reading hreading
  rw [heq, h]
  rfl

variable (hsupported : reading.unsupported = false)

include hsupported

theorem first_of_no_part (h : reading.parts = []) : (parse text).first = none := by
  obtain ⟨raw, phrase, heq⟩ := parse_eq_of_reading hreading
  rw [heq, hsupported, h]
  rfl

/-- A value with one part has one date. -/
theorem parse_of_part {q : Option Qualifier} {words : List String}
    (h : reading.parts = [(q, words)]) :
    (parse text).qualifier = q ∧
      (parse text).first = CalendarDate.ofWords? reading.calendar words ∧
      (parse text).secondQualifier = none ∧ (parse text).second = none := by
  obtain ⟨raw, phrase, heq⟩ := parse_eq_of_reading hreading
  rw [heq, hsupported, h]
  exact ⟨rfl, rfl, rfl, rfl⟩

/-- A value with more parts has two dates. -/
theorem parse_of_parts {q₁ q₂ : Option Qualifier} {words₁ words₂ : List String}
    {more : List (Option Qualifier × List String)}
    (h : reading.parts = (q₁, words₁) :: (q₂, words₂) :: more) :
    (parse text).qualifier = q₁ ∧
      (parse text).first = CalendarDate.ofWords? reading.calendar words₁ ∧
      (parse text).secondQualifier = q₂ ∧
      (parse text).second = CalendarDate.ofWords? reading.calendar words₂ := by
  obtain ⟨raw, phrase, heq⟩ := parse_eq_of_reading hreading
  rw [heq, hsupported, h]
  exact ⟨rfl, rfl, rfl, rfl⟩

end

/-! ## Words without a qualifier -/

/-- Whether a word names a calendar or belongs to a date. -/
def IsDateWord (word : String) : Prop :=
  (Calendar.ofEscape? word).isSome ∨
    Text.startsWith "@#D" word = false ∧ Qualifier.ofKeyword? word = none

namespace Reading

variable {r : Reading} {word : String}

theorem eq_of_ofEscape? {calendar : Calendar} (h : Calendar.ofEscape? word = some calendar) :
    word = "@#DGREGORIAN@" ∧ calendar = .gregorian ∨ word = "@#DJULIAN@" ∧ calendar = .julian := by
  unfold Calendar.ofEscape? at h
  split at h
  · exact .inl ⟨rfl, (Option.some.inj h).symm⟩
  · exact .inr ⟨rfl, (Option.some.inj h).symm⟩
  · cases h

theorem readWord_escape (hr : r.escape = none) {calendar : Calendar}
    (h : Calendar.ofEscape? word = some calendar) :
    r.readWord word = { r with calendar := calendar } := by
  unfold readWord
  rw [hr]
  rcases eq_of_ofEscape? h with ⟨rfl, rfl⟩ | ⟨rfl, rfl⟩
  · show r.readEscape "@#DGREGORIAN@" = _
    rw [readEscape, if_neg (by decide), if_pos rfl, ← hr]
  · show r.readEscape "@#DJULIAN@" = _
    rw [readEscape, if_neg (by decide), if_neg (by decide), if_pos rfl, ← hr]

theorem readWord_plain (hr : r.escape = none) (hstart : Text.startsWith "@#D" word = false)
    (hnone : Qualifier.ofKeyword? word = none) :
    r.readWord word = { r with words := r.words ++ [word] } := by
  unfold readWord
  rw [hr, hstart, hnone]
  rfl

theorem readWord_qualifier (hr : r.escape = none) (hstart : Text.startsWith "@#D" word = false)
    {q : Qualifier} (hq : Qualifier.ofKeyword? word = some q) :
    r.readWord word = { r.closePart with qualifier := some q } := by
  unfold readWord
  rw [hr, hstart, hq]
  rfl

/-- **Words without a qualifier** set the calendar, or go into the part that is being read. -/
theorem foldl_readWord {words : List String} (hr : r.escape = none)
    (h : ∀ word ∈ words, IsDateWord word) :
    words.foldl readWord r =
      { r with
        calendar := (lastEscape? words).getD r.calendar
        words := r.words ++ plainWords words } := by
  unfold lastEscape? plainWords
  induction words generalizing r with
  | nil =>
    rw [List.filter_nil, List.append_nil]
    rfl
  | cons word words ih =>
    have hrest := fun w hw => h w (List.mem_cons_of_mem word hw)
    rw [List.foldl_cons]
    cases hescape : Calendar.ofEscape? word with
    | some calendar =>
      rw [readWord_escape hr hescape, @ih { r with calendar := calendar } hr hrest, List.filterMap_cons_some hescape,
        List.getLast?_cons, List.filter_cons_of_neg (by simp [hescape])]
      rfl
    | none =>
      rcases h word List.mem_cons_self with hsome | ⟨hstart, hnone⟩
      · rw [hescape] at hsome
        cases hsome
      · rw [readWord_plain hr hstart hnone, @ih { r with words := r.words ++ [word] } hr hrest, List.filterMap_cons_none hescape,
          List.filter_cons_of_pos (by rw [hescape]; rfl)]
        simp

/-! ## Readings in which no qualifier has come -/

/-- Whether nothing has been read but words of a single date. -/
structure Clean (r : Reading) : Prop where
  supported : r.unsupported = false
  closed : r.escape = none
  unqualified : r.qualifier = none
  single : r.parts = []

/-- An escape of more than one word is none of the two that are known. -/
theorem readEscape_not_clean (escape : String) : ¬ (r.readEscape (escape ++ " " ++ word)).Clean := by
  have hblank : ' ' ∈ (escape ++ " " ++ word).toList := by
    simp
  intro hclean
  unfold readEscape at hclean
  split at hclean
  · exact absurd hclean.closed (Option.some_ne_none _)
  · rw [if_neg, if_neg] at hclean
    · exact absurd hclean.supported (by simp)
    · intro heq
      rw [heq] at hblank
      exact absurd hblank (by decide)
    · intro heq
      rw [heq] at hblank
      exact absurd hblank (by decide)

/-- **No word but those of a single date keeps a reading clean.** -/
theorem clean_of_readWord (h : (r.readWord word).Clean) : r.Clean ∧ IsDateWord word := by
  unfold readWord at h
  split at h
  next escape hopen => exact absurd h (readEscape_not_clean escape)
  next hnone =>
    by_cases hstart : Text.startsWith "@#D" word = true
    · rw [if_pos hstart] at h
      unfold readEscape at h
      split at h
      · exact absurd h.closed (Option.some_ne_none _)
      · split at h
        next hword => exact ⟨⟨h.supported, hnone, h.unqualified, h.single⟩, .inl (by rw [hword]; rfl)⟩
        next =>
          split at h
          next hword =>
            exact ⟨⟨h.supported, hnone, h.unqualified, h.single⟩, .inl (by rw [hword]; rfl)⟩
          next => exact absurd h.supported (by simp)
    · rw [if_neg hstart] at h
      split at h
      next q hq => exact absurd h.unqualified (Option.some_ne_none _)
      next hq =>
        exact ⟨⟨h.supported, hnone, h.unqualified, h.single⟩,
          .inr ⟨Bool.eq_false_iff.mpr hstart, hq⟩⟩

theorem isDateWord_of_clean {words : List String} (h : (words.foldl readWord r).Clean) :
    r.Clean ∧ ∀ word ∈ words, IsDateWord word := by
  induction words generalizing r with
  | nil => exact ⟨h, fun _ hword => absurd hword List.not_mem_nil⟩
  | cons first words ih =>
    obtain ⟨hfirst, hwords⟩ := ih h
    obtain ⟨hclean, hword⟩ := clean_of_readWord hfirst
    refine ⟨hclean, ?_⟩
    intro w hw
    rcases List.mem_cons.mp hw with rfl | hlater
    · exact hword
    · exact hwords w hlater

/-- Whether all parts but the first, also the one that is being read, have a qualifier. -/
structure Ordered (r : Reading) : Prop where
  later : ∀ part ∈ r.parts.tail, part.1.isSome
  current : r.parts ≠ [] → r.qualifier.isSome

theorem ordered_closePart (h : r.Ordered) : ∀ part ∈ r.closePart.parts.tail, part.1.isSome := by
  unfold closePart
  split
  · exact h.later
  · intro part hpart
    cases hparts : r.parts with
    | nil =>
      rw [hparts] at hpart
      cases hpart
    | cons first rest =>
      have hcurrent := h.current (by rw [hparts]; exact List.cons_ne_nil first rest)
      rw [hparts] at hpart
      rcases List.mem_append.mp hpart with hrest | hlast
      · exact h.later part (by rw [hparts]; exact hrest)
      · rw [List.mem_singleton.mp hlast]
        exact hcurrent

theorem ordered_readWord (h : r.Ordered) (word : String) : (r.readWord word).Ordered := by
  have hescape : ∀ escape, (r.readEscape escape).Ordered := by
    intro escape
    unfold readEscape
    split
    · exact ⟨h.later, h.current⟩
    · split
      · exact ⟨h.later, h.current⟩
      · split
        · exact ⟨h.later, h.current⟩
        · exact ⟨h.later, h.current⟩
  unfold readWord
  split
  · exact hescape _
  · split
    · exact hescape _
    · split
      · exact ⟨ordered_closePart h, fun _ => rfl⟩
      · exact ⟨h.later, h.current⟩

theorem ordered_foldl (words : List String) (h : r.Ordered) : (words.foldl readWord r).Ordered := by
  induction words generalizing r with
  | nil => exact h
  | cons word words ih => exact ih (ordered_readWord h word)

theorem closePart_eq (h : r.words ≠ [] ∨ r.qualifier.isSome) :
    r.closePart =
      { r with parts := r.parts ++ [(r.qualifier, r.words)], words := [], qualifier := none } := by
  unfold closePart
  rw [if_neg]
  rcases h with hwords | hsome
  · simp [hwords]
  · cases hq : r.qualifier with
    | none =>
      rw [hq] at hsome
      cases hsome
    | some q => simp

/-- Words of a single date make one part. -/
theorem ofWords_single {words : List String} (h : ∀ word ∈ words, IsDateWord word)
    (hne : plainWords words ≠ []) :
    ofWords words =
      { calendar := (lastEscape? words).getD .gregorian, parts := [(none, plainWords words)] } := by
  unfold ofWords
  rw [foldl_readWord rfl h, closePart_eq (.inl (by simpa using hne))]
  rfl

/-- Without a word of a date there is no part. -/
theorem ofWords_empty {words : List String} (h : ∀ word ∈ words, IsDateWord word)
    (hempty : plainWords words = []) :
    ofWords words = { calendar := (lastEscape? words).getD .gregorian } := by
  unfold ofWords
  rw [foldl_readWord rfl h, hempty]
  rfl

/-- A reading that is supported has no escape left open. -/
theorem ofWords_of_supported {words : List String} (h : (ofWords words).unsupported = false) :
    ofWords words = (words.foldl readWord {}).closePart ∧
      (words.foldl readWord {}).unsupported = false ∧ (words.foldl readWord {}).escape = none := by
  unfold ofWords at h ⊢
  generalize words.foldl readWord {} = read at h ⊢
  have hkeep : read.closePart.unsupported = read.unsupported ∧
      read.closePart.escape = read.escape := by
    unfold closePart
    split
    · exact ⟨rfl, rfl⟩
    · exact ⟨rfl, rfl⟩
  dsimp only at h ⊢
  split at h
  · cases h
  next hclosed =>
    rw [if_neg hclosed, ← hkeep.1, ← hkeep.2]
    exact ⟨rfl, h, Option.not_isSome_iff_eq_none.mp hclosed⟩

/-- If a part without a qualifier is all there is, no qualifier has come. -/
theorem single_of_closePart (h : r.Ordered) {words : List String}
    (hparts : r.closePart.parts = [(none, words)]) : r.qualifier = none ∧ r.parts = [] := by
  by_cases hnone : r.parts = []
  · refine ⟨?_, hnone⟩
    unfold closePart at hparts
    split at hparts
    · rw [hnone] at hparts
      cases hparts
    · dsimp only at hparts
      rw [hnone, List.nil_append, List.cons.injEq, Prod.mk.injEq] at hparts
      exact hparts.1.1
  · -- the part that is being read comes behind these ones
    have hcurrent := h.current hnone
    rw [closePart_eq (.inr hcurrent)] at hparts
    dsimp only at hparts
    have hlength := congrArg List.length hparts
    rw [List.length_append, List.length_singleton, List.length_singleton] at hlength
    exact absurd (List.eq_nil_of_length_eq_zero (by omega)) hnone

/-- **What is read as a single date without a qualifier has only words of a date.** -/
theorem clean_of_isSingle {text : String} {date : CalendarDate} (h : IsSingle text date) :
    ((dateWords text).foldl readWord {}).Clean := by
  have hordered : ((dateWords text).foldl readWord {}).Ordered :=
    ordered_foldl _ ⟨nofun, fun hne => absurd rfl hne⟩
  have hsupported : (ofWords (dateWords text)).unsupported = false := by
    rw [Bool.eq_false_iff]
    intro hunsupported
    have hnone := first_of_unsupported rfl hunsupported
    rw [h.first] at hnone
    cases hnone
  obtain ⟨hclose, hread, hescape⟩ := ofWords_of_supported hsupported
  have hlater := ordered_closePart hordered
  rw [← hclose] at hlater
  cases hparts : (ofWords (dateWords text)).parts with
  | nil =>
    have hnone := first_of_no_part rfl hsupported hparts
    rw [h.first] at hnone
    cases hnone
  | cons part more =>
    obtain ⟨q, words⟩ := part
    cases more with
    | nil =>
      obtain ⟨hq, -⟩ := parse_of_part rfl hsupported hparts
      rw [h.unqualified] at hq
      subst hq
      rw [hclose] at hparts
      obtain ⟨hqualifier, hsingle⟩ := single_of_closePart hordered hparts
      exact ⟨hread, hescape, hqualifier, hsingle⟩
    | cons second more =>
      obtain ⟨q₂, words₂⟩ := second
      obtain ⟨-, -, hq₂, -⟩ := parse_of_parts rfl hsupported hparts
      have hsome := hlater (q₂, words₂) (by rw [hparts]; exact List.mem_cons_self)
      rw [← hq₂, h.alone] at hsome
      cases hsome

end Reading

section

variable {text : String} {date : CalendarDate}

theorem isDateWord_of_isSingle (h : IsSingle text date) : ∀ word ∈ dateWords text, IsDateWord word :=
  (Reading.isDateWord_of_clean (Reading.clean_of_isSingle h)).2

/-- **A single date** is made of the words that name no calendar, in the calendar that the last
escape names. -/
theorem parse_of_isSingle (h : IsSingle text date) :
    CalendarDate.ofWords? ((escape? text).getD .gregorian) (plainWords (dateWords text)) =
      some date ∧ (parse text).second = none := by
  have hwords := isDateWord_of_isSingle h
  rw [escape?]
  by_cases hempty : plainWords (dateWords text) = []
  · have hnone := first_of_no_part (Reading.ofWords_empty hwords hempty) rfl rfl
    rw [h.first] at hnone
    cases hnone
  · obtain ⟨-, hfirst, -, hsecond⟩ :=
      parse_of_part (Reading.ofWords_single hwords hempty) rfl rfl
    rw [← hfirst, h.first]
    exact ⟨rfl, hsecond⟩

end

end Date

end Lineage
