import Lineage.Leveled.Block
import Lineage.Proofs.Text.Lines
import Lineage.Proofs.Text.Pieces

/-!
# Continued texts that are read again

The values of the continuation lines make up a text, one line each. A value may be any
text, also one that has the form of a continuation line itself. So when the text is taken
for the text of a record, its continuation lines are the values of this form, and not
none at all.

> `continuation_continuation`: what is read of a continued text is what the values among
> it continue, and nothing exactly when none of them has the form of a continuation line.

A carriage return at the end of a value is read as a part of the line break behind it, as
long as another value follows; `Text.recut` is the list of the lines that remain.
-/

namespace Lineage.Leveled

/-- The values of the continuation lines of a level. -/
def continuedValues (level : Nat) (record : String) : List String :=
  (Text.lines record).filterMap (continued? level)

/-- Whether a line is a continuation line of a level: it ends behind the tag, or a space
and the value follow. -/
def IsContinuation (level : Nat) (line : String) : Prop :=
  line = toString level ++ " CONT" ∨ ∃ value, line = toString level ++ " CONT " ++ value

/-- What the values are each written behind. -/
def continuedText (values : List String) : String :=
  String.join (values.map ("\n" ++ ·))

theorem continuation_eq (level : Nat) (record : String) :
    continuation level record = continuedText (continuedValues level record) :=
  rfl

/-! ## One line -/

/-- **The value of a continuation line** is what follows the space behind the tag. -/
theorem continued?_eq_some_iff {level : Nat} {line value : String} :
    continued? level line = some value ↔
      (line = toString level ++ " CONT" ∧ value = "") ∨
        line = toString level ++ " CONT " ++ value := by
  have hspace : toString level ++ " CONT " ++ value =
      toString level ++ " CONT" ++ (" " ++ value) := by
    rw [← String.toList_inj]
    simp
  rw [continued?, Option.bind_eq_bind, Option.bind_eq_some_iff, hspace]
  constructor
  · intro h
    obtain ⟨rest, hrest, hvalue⟩ := h
    rw [Text.after?_eq_some_iff] at hrest
    by_cases hempty : rest.isEmpty = true
    · rw [if_pos hempty] at hvalue
      cases hvalue
      left
      rw [hrest, String.isEmpty_iff.mp hempty, String.append_empty]
      exact ⟨rfl, rfl⟩
    · rw [if_neg hempty, Text.after?_eq_some_iff] at hvalue
      right
      rw [hrest, hvalue]
  · intro h
    rcases h with ⟨hline, hvalue⟩ | hline
    · refine ⟨"", ?_, ?_⟩
      · rw [Text.after?_eq_some_iff, hline, String.append_empty]
      · rw [hvalue]
        rfl
    · refine ⟨" " ++ value, Text.after?_eq_some_iff.mpr hline, ?_⟩
      have hne : ¬ (" " ++ value).isEmpty = true := by
        rw [String.isEmpty_iff, ← String.toList_inj, String.toList_append]
        exact List.cons_ne_nil _ _
      rw [if_neg hne, Text.after?_eq_some_iff]

theorem continued?_eq_none_iff {level : Nat} {line : String} :
    continued? level line = none ↔ ¬ IsContinuation level line := by
  rw [Option.eq_none_iff_forall_ne_some, IsContinuation]
  constructor
  · intro h hline
    rcases hline with hline | ⟨value, hline⟩
    · exact h "" (continued?_eq_some_iff.mpr (.inl ⟨hline, rfl⟩))
    · exact h value (continued?_eq_some_iff.mpr (.inr hline))
  · intro h value hvalue
    rcases continued?_eq_some_iff.mp hvalue with ⟨hline, -⟩ | hline
    · exact h (.inl hline)
    · exact h (.inr ⟨value, hline⟩)

/-- No line break is in the value of a line. -/
theorem not_mem_of_mem_continuedValues {level : Nat} {record value : String}
    (h : value ∈ continuedValues level record) : '\n' ∉ value.toList := by
  obtain ⟨line, hline, hvalue⟩ := List.mem_filterMap.mp h
  obtain ⟨cs, hcs, rfl⟩ := List.mem_map.mp hline
  intro hmem
  refine Chars.not_mem_of_mem_lines hcs ?_
  rw [← String.toList_ofList (l := cs)]
  rcases continued?_eq_some_iff.mp hvalue with ⟨-, hempty⟩ | hline
  · rw [hempty] at hmem
    cases hmem
  · rw [hline, String.toList_append]
    exact List.mem_append_right _ hmem

/-! ## The continued text -/

theorem continuedText_eq_empty_iff {values : List String} :
    continuedText values = "" ↔ values = [] := by
  cases values with
  | nil => simp [continuedText]
  | cons value rest =>
    rw [← String.toList_inj]
    simp [continuedText]

/-- The values stand behind an empty line. -/
theorem continuedText_cons (value : String) (rest : List String) :
    continuedText (value :: rest) = "\n" ++ Text.unlines (value :: rest) := by
  induction rest generalizing value with
  | nil => simp [continuedText, Text.unlines_singleton]
  | cons next rest ih =>
    have hstep : continuedText (value :: next :: rest) =
        "\n" ++ value ++ continuedText (next :: rest) := by
      simp [continuedText]
    rw [hstep, ih, ← String.toList_inj]
    simp [Text.unlines_cons_cons]

/-- **The lines of a continued text** are an empty one and the values. -/
theorem lines_continuedText {values : List String} (hne : values ≠ [])
    (h : ∀ value ∈ values, '\n' ∉ value.toList) :
    Text.lines (continuedText values) = "" :: Text.recut values := by
  obtain ⟨value, rest, rfl⟩ := List.exists_cons_of_ne_nil hne
  rw [continuedText_cons, ← Text.lines_unlines_eq_recut h, Text.lines, String.toList_append]
  rfl

/-- What is read of a continued text is read of the values. -/
theorem continuedValues_continuation (level : Nat) (record : String) :
    continuedValues level (continuation level record) =
      (Text.recut (continuedValues level record)).filterMap (continued? level) := by
  rw [continuation_eq]
  cases hvalues : continuedValues level record with
  | nil => rfl
  | cons value rest =>
    have hsingle : ∀ v ∈ value :: rest, '\n' ∉ v.toList := by
      intro v hv
      rw [← hvalues] at hv
      exact not_mem_of_mem_continuedValues hv
    have hempty : continued? level "" = none := by
      rw [continued?_eq_none_iff]
      intro h
      rcases h with h | ⟨v, h⟩
      all_goals
        have hlist := congrArg String.toList h
        simp at hlist
    rw [continuedValues, lines_continuedText (List.cons_ne_nil _ _) hsingle,
      List.filterMap_cons_none hempty]

/-- **What is read of a continued text** is what the values of the form of a continuation
line continue. It is empty exactly when no value has this form. -/
theorem continuation_continuation (level : Nat) (record : String) :
    continuation level (continuation level record) =
        continuedText
          ((Text.recut (continuedValues level record)).filterMap (continued? level)) ∧
      (continuation level (continuation level record) = "" ↔
        ∀ value ∈ Text.recut (continuedValues level record), ¬ IsContinuation level value) := by
  have hread : continuation level (continuation level record) =
      continuedText
        ((Text.recut (continuedValues level record)).filterMap (continued? level)) := by
    rw [continuation_eq, continuedValues_continuation]
  refine ⟨hread, ?_⟩
  rw [hread, continuedText_eq_empty_iff, List.filterMap_eq_nil_iff]
  simp only [continued?_eq_none_iff]

/-- **A continued text may hold continuation lines**: the value of one may be another. -/
theorem not_continuation_continuation_eq_empty :
    ¬ ∀ (level : Nat) (record : String), continuation level (continuation level record) = "" := by
  intro h
  have hnested := h 2 "1 NOTE a\n2 CONT 2 CONT b"
  revert hnested
  decide +kernel

end Lineage.Leveled
