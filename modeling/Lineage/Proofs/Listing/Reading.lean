import Lineage.Listing.DateBound
import Lineage.Proofs.Leveled.Value
import Lineage.Proofs.Text.Blank
import Lineage.Proofs.Text.Pieces

/-!
# Reading a bound on a date

A bound is written `TAG:DATE`, a space, the word for it, a space and the date. Whoever
reads conditions takes as much as possible for each part: the path ends where the space
comes, so does the word, and the value starts behind all blanks, unless there is nothing
but blanks.

> `ListCondition.parse?_of_factDate`: what is read as a bound by the one reader is read as
> the same bound by the other.
-/

namespace Lineage

namespace Date

/-- Blanks around a date do not count. -/
theorem parse_congr {s t : String} (h : Text.trim s = Text.trim t) : parse s = parse t := by
  unfold parse
  rw [h]

end Date

namespace Chars

theorem trim_append_of_blank {blanks cs : List Char} (h : ∀ c ∈ blanks, isBlank c = true) :
    trim (blanks ++ cs) = trim cs := by
  rw [trim, trim, stripWhile, stripWhile, List.dropWhile_append_of_pos h]

theorem isBlank_eq_false_of_isUpper {c : Char} (h : c.isUpper = true) : isBlank c = false := by
  rw [isUpper_iff] at h
  simp only [isBlank, Bool.or_eq_false_iff, Bool.and_eq_false_iff, decide_eq_false_iff_not,
    beq_eq_false_iff_ne]
  omega

end Chars

namespace Substitution

/-- What comes in front of the first dollar sign refers to nothing. -/
theorem firstVariable?_append {front cs : List Char} (h : '$' ∉ front) :
    firstVariable? (.ofList (front ++ cs)) = firstVariable? (.ofList cs) := by
  rw [firstVariable?, firstVariable?, variablePieces, variablePieces, String.toList_ofList,
    String.toList_ofList]
  induction front with
  | nil => rfl
  | cons c front ih =>
    rw [List.mem_cons, not_or] at h
    rw [List.cons_append, Piece.ofChars, if_neg (Ne.symm h.1), ← ih h.2]
    rfl

end Substitution

namespace ListFilter

theorem parseName?_ne_factDate {cs : List Char} {tag : String} {bound : DateBound} {limit : Date} :
    parseName? cs ≠ some (.factDate tag bound limit) := by
  intro h
  unfold parseName? at h
  obtain ⟨rest, -, h⟩ := Option.bind_eq_some_iff.mp h
  split at h <;> cases h

theorem parseLike?_ne_factDate {cs : List Char} {tag : String} {bound : DateBound} {limit : Date} :
    parseLike? cs ≠ some (.factDate tag bound limit) := by
  intro h
  unfold parseLike? at h
  obtain ⟨rest, -, h⟩ := Option.bind_eq_some_iff.mp h
  obtain ⟨pattern, -, h⟩ := Option.bind_eq_some_iff.mp h
  split at h <;> cases h

theorem parseDate?_of_factDate {text tag : String} {bound : DateBound} {limit : Date}
    (h : parse? text = some (.factDate tag bound limit)) :
    parseDate? text.toList = some (.factDate tag bound limit) := by
  rw [parse?] at h
  split at h
  next filter hdate => rw [hdate, ← h]
  next =>
    split at h
    next hname => exact absurd (hname.trans h) parseName?_ne_factDate
    next => exact absurd h parseLike?_ne_factDate

/-- **How a bound on a date is written.** -/
theorem exists_of_factDate {text tag : String} {bound : DateBound} {limit : Date}
    (h : parse? text = some (.factDate tag bound limit)) :
    ∃ date, text.toList =
        tag.toList ++ ":DATE ".toList ++ bound.keyword.toList ++ ' ' :: date ∧
      tag.toList ≠ [] ∧ date ≠ [] ∧ '\n' ∉ date ∧ limit = Date.parse (.ofList date) := by
  have hread := parseDate?_of_factDate h
  unfold parseDate? at hread
  obtain ⟨rest, hrest, hread⟩ := Option.bind_eq_some_iff.mp hread
  -- the tag is a run of word characters, and the rest comes behind it
  have htext : text.toList = text.toList.takeWhile Chars.isWord ++ (":DATE ".toList ++ rest) := by
    rw [← Chars.after?_eq_some_iff.mp hrest]
    exact (List.prefix_iff_eq_append.mp (List.takeWhile_prefix _)).symm
  have hparts (side : DateBound) (date : List Char)
      (hside : rest = side.keyword.toList ++ ' ' :: date)
      (hfilter : (if (text.toList.takeWhile Chars.isWord).isEmpty || date.isEmpty ||
          !isOneLine date then none
        else some (factDate (.ofList (text.toList.takeWhile Chars.isWord)) side
          (Date.parse (.ofList date)))) = some (.factDate tag bound limit)) :
      ∃ date, text.toList =
          tag.toList ++ ":DATE ".toList ++ bound.keyword.toList ++ ' ' :: date ∧
        tag.toList ≠ [] ∧ date ≠ [] ∧ '\n' ∉ date ∧ limit = Date.parse (.ofList date) := by
    split at hfilter
    next => cases hfilter
    next hok =>
      cases hfilter
      simp only [Bool.or_eq_true, not_or, Bool.not_eq_true, List.isEmpty_eq_false_iff, isOneLine,
        Bool.not_not, List.contains_eq_mem, decide_eq_false_iff_not] at hok
      rw [String.toList_ofList]
      refine ⟨date, ?_, hok.1.1, hok.1.2, hok.2, rfl⟩
      conv_lhs => rw [htext, hside]
      simp only [List.append_assoc]
  dsimp only at hread
  split at hread
  next date hlte =>
    have hspace : "LTE ".toList = DateBound.notAfter.keyword.toList ++ [' '] := rfl
    refine hparts .notAfter date ?_ hread
    rw [Chars.after?_eq_some_iff.mp hlte, hspace, List.append_assoc, List.singleton_append]
  next =>
    obtain ⟨⟨side, date⟩, hside, hread⟩ := Option.bind_eq_some_iff.mp hread
    obtain ⟨found, hgte, heq⟩ := Option.map_eq_some_iff.mp hside
    cases heq
    have hspace : "GTE ".toList = DateBound.notBefore.keyword.toList ++ [' '] := rfl
    refine hparts .notBefore _ ?_ hread
    rw [Chars.after?_eq_some_iff.mp hgte, hspace, List.append_assoc, List.singleton_append]

end ListFilter

namespace ListCondition

/-! ## Parts of a condition -/

section

variable {α : Type} {p : Char → Bool} {read? : List Char → Option α}

/-- What can be read behind a whole run is read there. -/
theorem behindLongest?_run {run rest : List Char} {a : α} (hne : run ≠ [])
    (hrun : ∀ c ∈ run, p c = true) (hrest : ∀ c, rest.head? = some c → p c = false)
    (hread : read? rest = some a) : behindLongest? p read? (run ++ rest) = some (run, a) := by
  have hstop : behindLongest? p read? rest = none := by
    cases rest with
    | nil => rfl
    | cons c rest => rw [behindLongest?, hrest c rfl, if_neg Bool.false_ne_true]
  induction run with
  | nil => exact absurd rfl hne
  | cons c run ih =>
    rw [List.forall_mem_cons] at hrun
    rw [List.cons_append, behindLongest?, if_pos hrun.1]
    cases run with
    | nil =>
      rw [List.nil_append, hstop]
      simp only [hread, Option.map_some]
    | cons d run => rw [ih (List.cons_ne_nil _ _) hrun.2]

end

theorem value?_eq {cs : List Char} (hne : cs ≠ []) (hline : '\n' ∉ cs) : value? cs = some cs := by
  have hrest : Chars.restOfLine cs = cs := by
    rw [Chars.restOfLine, List.takeWhile_eq_self_iff]
    intro c hc
    rw [bne_iff_ne]
    rintro rfl
    exact hline hc
  have hempty : cs.isEmpty = false := by
    rwa [List.isEmpty_eq_false_iff]
  rw [value?, hrest, hempty]
  rfl

/-- Blanks in front of a value are left out, as long as something remains. -/
theorem exists_behindBlanks {c : Char} {cs : List Char} (hc : Chars.isBlank c = true)
    (hne : cs ≠ []) (hline : '\n' ∉ cs) :
    ∃ blanks value, cs = blanks ++ value ∧ value ≠ [] ∧
      (∀ b ∈ blanks, Chars.isBlank b = true) ∧
      behindLongest? Chars.isBlank value? (c :: cs) = some (c :: blanks, value) := by
  induction cs generalizing c with
  | nil => exact absurd rfl hne
  | cons d rest ih =>
    have hvalue := value?_eq hne hline
    rw [List.mem_cons, not_or] at hline
    have hall (hnone : behindLongest? Chars.isBlank value? (d :: rest) = none) :
        behindLongest? Chars.isBlank value? (c :: d :: rest) = some ([c], d :: rest) := by
      rw [behindLongest?, if_pos hc, hnone]
      simp only [hvalue, Option.map_some]
    cases hd : Chars.isBlank d with
    | false =>
      refine ⟨[], d :: rest, rfl, hne, nofun, hall ?_⟩
      rw [behindLongest?, hd, if_neg Bool.false_ne_true]
    | true =>
      cases rest with
      | nil =>
        -- the last blank is the value
        refine ⟨[], [d], rfl, hne, nofun, hall ?_⟩
        rw [behindLongest?, if_pos hd]
        rfl
      | cons e rest =>
        obtain ⟨blanks, value, hcs, hvalue, hblanks, hread⟩ :=
          ih hd (List.cons_ne_nil _ _) hline.2
        refine ⟨d :: blanks, value, by rw [hcs]; rfl, hvalue,
          List.forall_mem_cons.mpr ⟨hd, hblanks⟩, ?_⟩
        rw [behindLongest?, if_pos hc, hread]

theorem isPathChar_of_isUpper {c : Char} (h : c.isUpper = true) : isPathChar c = true := by
  have hcodes : 'A' ≤ c ∧ c ≤ 'Z' := of_decide_eq_true h
  simp only [isPathChar, Bool.or_eq_true, Bool.and_eq_true, decide_eq_true_eq]
  exact .inl hcodes

/-- **The three parts of a text**: the path goes as far as its characters do, blanks behind it
are left out, the operator is a word, and the value is what can be read behind that. -/
theorem leadingParts?_run {path : List Char} (gap : List Char) {word rest value : List Char}
    (hne : path ≠ []) (hpath : ∀ c ∈ path, isPathChar c = true)
    (hstop : ∀ c, (gap ++ word).head? = some c → isPathChar c = false)
    (hgap : ∀ c ∈ gap, Chars.isBlank c = true) (hword : Chars.IsWord word) (hnonempty : word ≠ [])
    (hvalue : valueBehindBlanks? (' ' :: rest) = some value) :
    leadingParts? (path ++ (gap ++ (word ++ ' ' :: rest))) = some ⟨path, word, value⟩ := by
  have hoperator : behindLongest? (!Chars.isBlank ·) valueBehindBlanks? (word ++ ' ' :: rest) =
      some (word, value) := by
    refine behindLongest?_run hnonempty (fun c hc => ?_) ?_ hvalue
    · rw [hword c hc]
      rfl
    · rintro c ⟨⟩
      rfl
  have htrim : Chars.trimStart (gap ++ (word ++ ' ' :: rest)) = word ++ ' ' :: rest := by
    obtain ⟨c, more, rfl⟩ := List.exists_cons_of_ne_nil hnonempty
    rw [Chars.trimStart, List.dropWhile_append_of_pos hgap, List.cons_append,
      List.dropWhile_cons_of_neg (by rw [hword c List.mem_cons_self]; exact Bool.false_ne_true)]
  rw [leadingParts?]
  dsimp only
  rw [behindLongest?_run (a := (word, value)) hne hpath ?_ ?_]
  · rfl
  · intro c hc
    refine hstop c ?_
    obtain ⟨d, more, rfl⟩ := List.exists_cons_of_ne_nil hnonempty
    cases gap with
    | nil => exact hc
    | cons e gap => exact hc
  · rw [htrim, hoperator]

/-- **The three parts of a bound.** -/
theorem exists_parts? {tag word date : List Char} (htag : ∀ c ∈ tag, c.isUpper = true)
    (hword : Chars.IsWord word) (hne : word ≠ []) (hdate : date ≠ []) (hline : '\n' ∉ date) :
    ∃ blanks value, date = blanks ++ value ∧ value ≠ [] ∧
      (∀ b ∈ blanks, Chars.isBlank b = true) ∧
      parts? (tag ++ ":DATE ".toList ++ word ++ ' ' :: date) =
        some ⟨tag ++ ":DATE".toList, word, value⟩ := by
  obtain ⟨blanks, value, hsplit, hvalue, hblanks, hread⟩ :=
    exists_behindBlanks (rfl : Chars.isBlank ' ' = true) hdate hline
  refine ⟨blanks, value, hsplit, hvalue, hblanks, Chars.firstSuffix?_of_some ?_⟩
  have hbehind : valueBehindBlanks? (' ' :: date) = some value := by
    rw [valueBehindBlanks?, hread]
  have hpath : ∀ c ∈ tag ++ ":DATE".toList, isPathChar c = true := by
    rw [List.forall_mem_append]
    refine ⟨fun c hc => isPathChar_of_isUpper (htag c hc), ?_⟩
    exact List.all_eq_true.mp rfl
  have hcs : tag ++ ":DATE ".toList ++ word ++ ' ' :: date =
      (tag ++ ":DATE".toList) ++ ([' '] ++ (word ++ ' ' :: date)) := by
    have hspace : ":DATE ".toList = ":DATE".toList ++ [' '] := rfl
    rw [hspace]
    simp
  rw [hcs]
  refine leadingParts?_run [' '] (by simp) hpath ?_ (fun c hc => ?_) hword hne hbehind
  · rintro c ⟨⟩
    rfl
  · rw [List.mem_singleton.mp hc]
    rfl

/-! ## Bounds as conditions -/

theorem isWord_keyword (bound : DateBound) : Chars.IsWord bound.keyword.toList := by
  cases bound <;>
  · intro c hc
    exact Bool.eq_false_iff.mpr (List.any_eq_false.mp rfl c hc)

/-- **A bound that the store answers is a bound as a condition**: it has the same sides, and a
value that stands for the same days. -/
theorem parse?_of_factDate {text tag : String} {bound : DateBound} {limit : Date}
    (h : ListFilter.parse? text = some (.factDate tag bound limit))
    (htag : ∀ c ∈ tag.toList, c.isUpper = true)
    (hvariable : Substitution.firstVariable? text = none) (scope : Scope) :
    ∃ value, parse? text scope = some (.compare (tag ++ ":DATE") bound.comparison value) ∧
      limit = Date.parse value := by
  obtain ⟨date, htext, -, hne, hline, hlimit⟩ := ListFilter.exists_of_factDate h
  have hkeyword : bound.keyword.toList ≠ [] := by
    cases bound <;> exact List.cons_ne_nil _ _
  obtain ⟨blanks, value, rfl, hvalue, hblanks, hparts⟩ :=
    exists_parts? htag (isWord_keyword bound) hkeyword hne hline
  rw [← htext] at hparts
  -- nothing in front of the value refers to a variable
  have hfront : '$' ∉ tag.toList ++ ":DATE ".toList ++ bound.keyword.toList ++ ' ' :: blanks := by
    have htag' : '$' ∉ tag.toList := fun hc => absurd (htag _ hc) (by decide)
    have hblanks' : '$' ∉ blanks := fun hc => absurd (hblanks _ hc) (by decide)
    have hpath : '$' ∉ ":DATE ".toList := by decide
    have hword : '$' ∉ bound.keyword.toList := by cases bound <;> decide
    simp only [List.mem_append, List.mem_cons, htag', hblanks', hpath, hword, or_self, or_false]
    decide
  have hwritten : Substitution.firstVariable? (.ofList value) = none := by
    rw [← Substitution.firstVariable?_append hfront, List.append_assoc, List.cons_append, ← htext,
      String.ofList_toList, hvariable]
  have hempty : (String.ofList value).isEmpty = false := by
    rw [String.isEmpty_eq_false_iff, ← String.toList_inj.ne, String.toList_ofList]
    exact hvalue
  have hpath : String.ofList (tag.toList ++ ":DATE".toList) = tag ++ ":DATE" := by
    rw [← String.toList_inj]
    simp
  refine ⟨.ofList value, ?_, hlimit.trans (Date.parse_congr ?_)⟩
  · unfold parse?
    rw [hparts]
    simp only [Option.bind_eq_bind, Option.bind_some, hwritten, hempty, hpath, String.ofList_toList]
    rw [if_neg Bool.false_ne_true]
    cases bound <;> simp only [DateBound.keyword, DateBound.comparison]
  · rw [Text.trim, Text.trim, String.toList_ofList, String.toList_ofList,
      Chars.trim_append_of_blank hblanks]

end ListCondition

end Lineage
