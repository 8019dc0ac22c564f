import Lineage.Listing.Written
import Lineage.Proofs.Listing.Reading

/-!
# Reading a written comparison

The path of a condition is looked for wherever it may start, and it consists of capital
letters and colons. A path of tags in capital letters is read as it is written. An
underscore or a digit is no part of a path: what is in front of the first letter is left
out, and where a path goes on behind its letters, the rest of it is taken for the operator and
everything behind it for the value (`parse?_of_rest`).

> `parse?_written`: a written comparison is read as itself exactly when its tags consist of
> capital letters.
-/

namespace Lineage

namespace ListCondition

/-! ## Where the parts are -/

section

variable {α : Type} {p : Char → Bool} {read? : List Char → Option α}

theorem forall_of_behindLongest? {cs taken : List Char} {a : α}
    (h : behindLongest? p read? cs = some (taken, a)) : ∀ c ∈ taken, p c = true := by
  induction cs generalizing taken with
  | nil => cases h
  | cons c rest ih =>
    rw [behindLongest?] at h
    split at h
    next hc =>
      split at h
      next more b hmore =>
        cases h
        rw [List.forall_mem_cons]
        exact ⟨hc, ih hmore⟩
      next =>
        obtain ⟨b, -, heq⟩ := Option.map_eq_some_iff.mp h
        cases heq
        exact fun d hd => List.mem_singleton.mp hd ▸ hc
    next => cases h

end

/-- A path consists of its characters. -/
theorem isPathChar_of_parts? {cs : List Char} {parts : Parts} (h : parts? cs = some parts) :
    ∀ c ∈ parts.path, isPathChar c = true := by
  have hleading {ds : List Char} (hread : leadingParts? ds = some parts) :
      ∀ c ∈ parts.path, isPathChar c = true := by
    rw [leadingParts?] at hread
    obtain ⟨⟨path, operator, value⟩, hrun, rfl⟩ := Option.map_eq_some_iff.mp hread
    exact forall_of_behindLongest? hrun
  rw [parts?] at h
  induction cs with
  | nil => exact hleading h
  | cons c rest ih =>
    rw [Chars.firstSuffix?] at h
    split at h
    next found hfound =>
      cases h
      exact hleading hfound
    next => exact ih h

/-- Nothing is read from where no path can start. -/
theorem parts?_append {front : List Char} (h : ∀ c ∈ front, isPathChar c = false)
    (cs : List Char) : parts? (front ++ cs) = parts? cs := by
  induction front with
  | nil => rfl
  | cons c front ih =>
    rw [List.forall_mem_cons] at h
    have hnone : leadingParts? (c :: (front ++ cs)) = none := by
      rw [leadingParts?]
      dsimp only
      rw [behindLongest?, h.1]
      rfl
    rw [← ih h.2, List.cons_append, parts?, Chars.firstSuffix?, hnone, parts?]

/-- A value is read behind the space in front of it. -/
theorem valueBehindBlanks?_eq {value : List Char} (hne : value ≠ []) (hline : '\n' ∉ value)
    (hfirst : ∀ c, value.head? = some c → Chars.isBlank c = false) :
    valueBehindBlanks? (' ' :: value) = some value := by
  have hrun : behindLongest? Chars.isBlank value? ([' '] ++ value) = some ([' '], value) := by
    refine behindLongest?_run (List.cons_ne_nil _ _) (fun c hc => ?_) hfirst (value?_eq hne hline)
    rw [List.mem_singleton.mp hc]
    rfl
  rw [valueBehindBlanks?, ← List.singleton_append, hrun]

/-! ## From the parts to the condition -/

/-- The comparison that an operator stands for. -/
def comparisonOf (operator : String) : Comparison :=
  match operator with
  | "GTE" => .atLeast
  | "LTE" => .atMost
  | _ => .equal

theorem comparisonOf_keyword (comparison : Comparison) :
    comparisonOf comparison.keyword = comparison := by
  cases comparison <;> rfl

theorem parse?_of_parts? {condition : String} {path operator value : List Char}
    (hparts : parts? condition.toList = some ⟨path, operator, value⟩)
    (hoperator : String.ofList operator ≠ "CONTAINS") (hne : value ≠ []) (hplain : '$' ∉ value)
    (scope : Scope) :
    parse? condition scope =
      some (.compare (.ofList path) (comparisonOf (.ofList operator)) (.ofList value)) := by
  have hvariable : Substitution.firstVariable? (.ofList value) = none := by
    have hfree : Substitution.firstVariable? (.ofList (value ++ [])) =
        Substitution.firstVariable? (.ofList []) := Substitution.firstVariable?_append hplain
    rw [List.append_nil] at hfree
    exact hfree
  have hempty : (String.ofList value).isEmpty = false := by
    rw [String.isEmpty_eq_false_iff, ← String.toList_inj.ne, String.toList_ofList]
    exact hne
  unfold parse?
  rw [hparts]
  simp only [Option.bind_eq_bind, Option.bind_some, hvariable, hempty]
  rw [if_neg Bool.false_ne_true]
  unfold comparisonOf
  generalize String.ofList operator = word at hoperator ⊢
  split
  next => exact absurd rfl hoperator
  next => rfl
  next => rfl
  next hge hle =>
    split
    next => exact absurd rfl hge
    next => exact absurd rfl hle
    next => rfl

/-! ## Tags -/

theorem isUpper_or_of_isTagChar {c : Char} (h : Leveled.isTagChar c = true) :
    c.isUpper = true ∨ c.isDigit = true := by
  simp only [Leveled.isTagChar, Bool.or_eq_true, Bool.and_eq_true, decide_eq_true_eq] at h
  exact h.imp_left decide_eq_true

theorem IsTag.mem_cases {tag : String} (h : IsTag tag) {c : Char} (hc : c ∈ tag.toList) :
    c = '_' ∨ c.isUpper = true ∨ c.isDigit = true := by
  have hchars := h.chars
  cases hafter : Text.after? "_" tag with
  | none =>
    rw [hafter] at hchars
    exact .inr (isUpper_or_of_isTagChar (hchars c hc))
  | some rest =>
    rw [hafter] at hchars
    rw [Text.after?_eq_some_iff.mp hafter, String.toList_append, List.mem_append] at hc
    rcases hc with hc | hc
    · exact .inl (List.mem_singleton.mp hc)
    · exact .inr (isUpper_or_of_isTagChar (hchars c hc))

theorem toList_pathOf_cons (tag : String) (tags : List String) :
    (pathOf (tag :: tags)).toList =
      tag.toList ++ tags.flatMap fun next => ':' :: next.toList := by
  rw [pathOf, String.toList_intercalate]
  induction tags generalizing tag with
  | nil => simp
  | cons next rest ih =>
    rw [List.map_cons, List.map_cons, List.intercalate_cons_cons, ← List.map_cons, ih]
    simp

/-- The characters of a path are those of its tags, and colons. -/
theorem mem_pathOf {tags : List String} {c : Char} (h : c ∈ (pathOf tags).toList) :
    c = ':' ∨ ∃ tag ∈ tags, c ∈ tag.toList := by
  cases tags with
  | nil => cases h
  | cons tag tags =>
    rw [toList_pathOf_cons, List.mem_append, List.mem_flatMap] at h
    rcases h with h | ⟨next, hnext, h⟩
    · exact .inr ⟨tag, List.mem_cons_self, h⟩
    · rcases List.mem_cons.mp h with h | h
      · exact .inl h
      · exact .inr ⟨next, List.mem_cons_of_mem _ hnext, h⟩

theorem mem_pathOf_of_mem {tags : List String} {tag : String} (htag : tag ∈ tags) {c : Char}
    (hc : c ∈ tag.toList) : c ∈ (pathOf tags).toList := by
  cases tags with
  | nil => cases htag
  | cons first tags =>
    rw [toList_pathOf_cons, List.mem_append, List.mem_flatMap]
    rcases List.mem_cons.mp htag with rfl | htag
    · exact .inl hc
    · exact .inr ⟨tag, htag, List.mem_cons_of_mem _ hc⟩

section

variable {tags : List String} (htags : ∀ tag ∈ tags, IsTag tag)

include htags

/-- A path is a word. -/
theorem isWord_pathOf : Chars.IsWord (pathOf tags).toList := by
  intro c hc
  rcases mem_pathOf hc with rfl | ⟨tag, htag, hc⟩
  · rfl
  · rcases (htags tag htag).mem_cases hc with rfl | hupper | hdigit
    · rfl
    · exact Chars.isBlank_eq_false_of_isUpper hupper
    · exact Leveled.isBlank_eq_false_of_isDigit hdigit

/-- The characters of a path can be read as a path exactly if its tags consist of capital
letters. -/
theorem forall_isPathChar_iff :
    (∀ c ∈ (pathOf tags).toList, isPathChar c = true) ↔
      ∀ tag ∈ tags, ∀ c ∈ tag.toList, c.isUpper = true := by
  constructor
  · intro h tag htag c hc
    have hpath := h c (mem_pathOf_of_mem htag hc)
    rcases (htags tag htag).mem_cases hc with rfl | hupper | hdigit
    · exact absurd hpath (by decide)
    · exact hupper
    · rw [isPathChar, Bool.or_eq_true, Bool.and_eq_true, decide_eq_true_eq, beq_iff_eq] at hpath
      rw [Chars.isDigit_iff] at hdigit
      rcases hpath with ⟨hlow, -⟩ | rfl
      · exact absurd (Nat.le_trans (show 65 ≤ c.toNat from hlow) hdigit.2) (by decide)
      · exact absurd hdigit.2 (by decide)
  · intro h c hc
    rcases mem_pathOf hc with rfl | ⟨tag, htag, hc⟩
    · rfl
    · exact isPathChar_of_isUpper (h tag htag c hc)

end

/-! ## Reading -/

theorem IsValue.toList_ne_nil {value : String} (h : IsValue value) : value.toList ≠ [] :=
  fun hnil => h.nonempty (String.toList_inj.mp hnil)

/-- A value does not start with a blank. -/
theorem IsValue.head {value : String} (h : IsValue value) {c : Char}
    (hc : value.toList.head? = some c) : Chars.isBlank c = false := by
  have htrim : Chars.trim value.toList = value.toList := by
    rw [← String.ofList_inj, String.ofList_toList]
    exact h.trimmed
  exact Chars.head?_of_stripWhile_eq htrim hc

theorem isUpper_of_mem_keyword {comparison : Comparison} {c : Char}
    (h : c ∈ comparison.keyword.toList) : c.isUpper = true := by
  cases comparison <;> exact List.all_eq_true.mp rfl c h

theorem isWord_operator (comparison : Comparison) : Chars.IsWord comparison.keyword.toList :=
  fun _ hc => Chars.isBlank_eq_false_of_isUpper (isUpper_of_mem_keyword hc)

theorem toList_written (tags : List String) (comparison : Comparison) (value : String) :
    (written tags comparison value).toList =
      (pathOf tags).toList ++ ' ' :: (comparison.keyword.toList ++ ' ' :: value.toList) := by
  simp [written]

section

variable {tags : List String} {comparison : Comparison} {value : String} (hvalue : IsValue value)
  {front run rest : List Char} (hpath : (pathOf tags).toList = front ++ (run ++ rest))
  (hfront : ∀ c ∈ front, isPathChar c = false) (hne : run ≠ [])
  (hrun : ∀ c ∈ run, isPathChar c = true)

include hvalue hpath hfront hne hrun

/-- **A path that ends with its letters** is read from the first one on. -/
theorem parse?_of_run (hrest : rest = []) (scope : Scope) :
    parse? (written tags comparison value) scope =
      some (.compare (.ofList run) comparison value) := by
  have hkeyword : comparison.keyword.toList ≠ [] := by
    cases comparison <;> exact List.cons_ne_nil _ _
  have hparts : parts? (written tags comparison value).toList =
      some ⟨run, comparison.keyword.toList, value.toList⟩ := by
    rw [toList_written, hpath, hrest, List.append_nil, List.append_assoc, parts?_append hfront]
    refine Chars.firstSuffix?_of_some (leadingParts?_run [' '] hne hrun ?_ ?_
      (isWord_operator comparison) hkeyword
      (valueBehindBlanks?_eq hvalue.toList_ne_nil hvalue.single fun c hc => hvalue.head hc))
    · rintro c ⟨⟩
      rfl
    · intro c hc
      rw [List.mem_singleton.mp hc]
      rfl
  have hread := parse?_of_parts? hparts (by cases comparison <;> decide) hvalue.toList_ne_nil
    hvalue.plain scope
  rwa [String.ofList_toList, String.ofList_toList, comparisonOf_keyword] at hread

/-- **A path that goes on behind its letters** is read as far as they go. The rest of it is
taken for the operator, which is none of the words for one. -/
theorem parse?_of_rest (htags : ∀ tag ∈ tags, IsTag tag)
    (hstop : ∀ c, rest.head? = some c → isPathChar c = false) (hrest : rest ≠ []) (scope : Scope) :
    parse? (written tags comparison value) scope =
      some (.compare (.ofList run) .equal (comparison.keyword ++ " " ++ value)) := by
  -- the rest is a word that starts with none of the letters that an operator starts with
  have hword : Chars.IsWord rest := fun c hc =>
    isWord_pathOf htags c (by rw [hpath]; simp [hc])
  have hoperator (word : String) (hupper : ∃ c, word.toList.head? = some c ∧ isPathChar c = true) :
      String.ofList rest ≠ word := by
    rintro rfl
    obtain ⟨c, hc, hpath⟩ := hupper
    rw [String.toList_ofList] at hc
    rw [hstop c hc] at hpath
    cases hpath
  have hcomparison : comparisonOf (.ofList rest) = .equal := by
    unfold comparisonOf
    split
    next h => exact absurd h (hoperator "GTE" ⟨'G', rfl, rfl⟩)
    next h => exact absurd h (hoperator "LTE" ⟨'L', rfl, rfl⟩)
    next => rfl
  have hbehind (c : Char) (hupper : c.isUpper = false) (hspace : c ≠ ' ')
      (hc : c ∉ value.toList) : c ∉ comparison.keyword.toList ++ ' ' :: value.toList := by
    rw [List.mem_append, List.mem_cons, not_or, not_or]
    refine ⟨fun h => ?_, hspace, hc⟩
    rw [isUpper_of_mem_keyword h] at hupper
    cases hupper
  have hparts : parts? (written tags comparison value).toList =
      some ⟨run, rest, comparison.keyword.toList ++ ' ' :: value.toList⟩ := by
    rw [toList_written, hpath, List.append_assoc, List.append_assoc, parts?_append hfront]
    refine Chars.firstSuffix?_of_some (leadingParts?_run [] hne hrun hstop
      (fun c hc => by cases hc) hword hrest (valueBehindBlanks?_eq ?_ ?_ ?_))
    · simp
    · exact hbehind _ rfl (by decide) hvalue.single
    · cases comparison <;>
      · rintro c ⟨⟩
        rfl
  have hread := parse?_of_parts? hparts (hoperator "CONTAINS" ⟨'C', rfl, rfl⟩) (by simp)
    (hbehind _ rfl (by decide) hvalue.plain) scope
  have htext : String.ofList (comparison.keyword.toList ++ ' ' :: value.toList) =
      comparison.keyword ++ " " ++ value := by
    rw [← String.toList_inj]
    simp
  rw [hread, hcomparison, htext]

end

/-- **The path that is read consists of letters and colons**, whatever is written. -/
theorem isPathChar_of_parse? {condition path value : String} {comparison : Comparison}
    {scope : Scope} (h : parse? condition scope = some (.compare path comparison value)) :
    ∀ c ∈ path.toList, isPathChar c = true := by
  unfold parse? at h
  obtain ⟨parts, hparts, h⟩ := Option.bind_eq_some_iff.mp h
  have hpath : path = String.ofList parts.path := by
    dsimp only at h
    -- the value is that of a variable, or as it is written
    split at h
    all_goals
      split at h
      next => cases h
      next =>
        split at h
        next =>
          obtain ⟨pattern, -, h⟩ := Option.map_eq_some_iff.mp h
          cases h
        all_goals
          cases h
          rfl
  rw [hpath, String.toList_ofList]
  exact isPathChar_of_parts? hparts

/-- **A written comparison is read as itself exactly when its tags consist of capital
letters.** If there is an underscore or a digit in them, the path is read from its first letter
or colon on, and as far as there are letters and colons. If it goes on behind them, the rest of
it is taken for the operator, and the word for the comparison becomes a part of the value. -/
theorem parse?_written {tags : List String} (hne : tags ≠ []) (htags : ∀ tag ∈ tags, IsTag tag)
    (comparison : Comparison) {value : String} (hvalue : IsValue value) (scope : Scope) :
    (parse? (written tags comparison value) scope =
        some (.compare (pathOf tags) comparison value) ↔
      ∀ tag ∈ tags, ∀ c ∈ tag.toList, c.isUpper = true) ∧
    ∀ front run rest, (pathOf tags).toList = front ++ (run ++ rest) →
      (∀ c ∈ front, isPathChar c = false) → run ≠ [] → (∀ c ∈ run, isPathChar c = true) →
      (∀ c, rest.head? = some c → isPathChar c = false) →
      (rest = [] → parse? (written tags comparison value) scope =
        some (.compare (.ofList run) comparison value)) ∧
      (rest ≠ [] → parse? (written tags comparison value) scope =
        some (.compare (.ofList run) .equal (comparison.keyword ++ " " ++ value))) := by
  refine ⟨⟨fun h => ?_, fun h => ?_⟩, fun front run rest hpath hfront hrun hletters hstop =>
    ⟨fun hrest => ?_, fun hrest => ?_⟩⟩
  · exact (forall_isPathChar_iff htags).mp (isPathChar_of_parse? h)
  · have hrun : (pathOf tags).toList ≠ [] := by
      obtain ⟨tag, tags, rfl⟩ := List.exists_cons_of_ne_nil hne
      rw [toList_pathOf_cons]
      exact List.append_ne_nil_of_left_ne_nil (htags tag List.mem_cons_self).nonempty _
    have hpath : (pathOf tags).toList = [] ++ ((pathOf tags).toList ++ []) := by simp
    have hread : parse? (written tags comparison value) scope =
        some (.compare (.ofList (pathOf tags).toList) comparison value) :=
      parse?_of_run hvalue hpath nofun hrun ((forall_isPathChar_iff htags).mpr h) rfl scope
    rwa [String.ofList_toList] at hread
  · exact parse?_of_run hvalue hpath hfront hrun hletters hrest scope
  · exact parse?_of_rest hvalue hpath hfront hrun hletters htags hstop hrest scope

theorem isValue_seven : IsValue "7" :=
  ⟨by decide, by decide, by decide, by decide⟩

/-- A path in capital letters is read as it is written. One that ends with a digit is read
without it, and the digit is taken for the operator. -/
theorem parse?_written_addressLine :
    ((∀ tag ∈ ["ADDR", "CITY"], IsTag tag) ∧
      parse? (written ["ADDR", "CITY"] .atLeast "7") {} =
        some (.compare (pathOf ["ADDR", "CITY"]) .atLeast "7")) ∧
    (∀ tag ∈ ["ADR1"], IsTag tag) ∧ IsValue "7" ∧
      parse? (written ["ADR1"] .atLeast "7") {} = some (.compare "ADR" .equal "GTE 7") := by
  have htags : ∀ tag ∈ ["ADDR", "CITY"], IsTag tag := by
    simp only [List.forall_mem_cons]
    exact ⟨⟨by decide, List.all_eq_true.mp rfl⟩, ⟨by decide, List.all_eq_true.mp rfl⟩, nofun⟩
  have hupper : ∀ tag ∈ ["ADDR", "CITY"], ∀ c ∈ tag.toList, c.isUpper = true := by
    simp only [List.forall_mem_cons]
    exact ⟨List.all_eq_true.mp rfl, List.all_eq_true.mp rfl, nofun⟩
  have htag : ∀ tag ∈ ["ADR1"], IsTag tag := by
    simp only [List.forall_mem_cons]
    exact ⟨⟨by decide, List.all_eq_true.mp rfl⟩, nofun⟩
  refine ⟨⟨htags,
    (parse?_written (List.cons_ne_nil _ _) htags .atLeast isValue_seven {}).1.mpr hupper⟩,
    htag, isValue_seven, ?_⟩
  have hletters : ∀ c ∈ ['A', 'D', 'R'], isPathChar c = true := List.all_eq_true.mp rfl
  exact ((parse?_written (List.cons_ne_nil _ _) htag .atLeast isValue_seven {}).2 []
    ['A', 'D', 'R'] ['1'] rfl nofun (List.cons_ne_nil _ _) hletters (by rintro c ⟨⟩; rfl)).2
    (List.cons_ne_nil _ _)

/-- The underscore in front of a tag is left out, so that another tag is read. -/
theorem parse?_written_underscore :
    (∀ tag ∈ ["_UID"], IsTag tag) ∧ IsValue "7" ∧
      parse? (written ["_UID"] .equal "7") {} = some (.compare "UID" .equal "7") ∧
      parse? (written ["_UID"] .equal "7") {} ≠ some (.compare (pathOf ["_UID"]) .equal "7") := by
  have hread : parse? (written ["_UID"] .equal "7") {} = some (.compare "UID" .equal "7") := by
    decide +kernel
  have htags : ∀ tag ∈ ["_UID"], IsTag tag := by
    simp only [List.forall_mem_cons]
    exact ⟨⟨by decide, List.all_eq_true.mp rfl⟩, nofun⟩
  refine ⟨htags, isValue_seven, hread, ?_⟩
  rw [hread]
  decide +kernel

end ListCondition

end Lineage
