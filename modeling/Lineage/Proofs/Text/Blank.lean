import Mathlib.Data.List.DropRight
import Lineage.Text.Blank

/-!
# Trimming

What has been trimmed has no blanks at its ends any more, so that trimming it
again changes nothing. The removal at the end cannot lay a blank at the start
bare, because it leaves a prefix.
-/

namespace Lineage

namespace Chars

theorem dropEndWhile_eq (p : Char → Bool) (cs : List Char) :
    dropEndWhile p cs = cs.rdropWhile p :=
  rfl

/-- What is left at the start stays when something is removed at the end. -/
theorem dropWhile_of_prefix {p : Char → Bool} {cs ds : List Char} (h : cs <+: ds)
    (hds : ds.dropWhile p = ds) : cs.dropWhile p = cs := by
  cases cs with
  | nil => rfl
  | cons c rest =>
    obtain ⟨tail, rfl⟩ := h
    have hc : ¬ p c = true := by
      rw [List.dropWhile_eq_self_iff] at hds
      exact hds (Nat.succ_pos _)
    rw [List.dropWhile_cons_of_neg hc]

/-- What is left when characters are removed at both ends does not start with one
of them. -/
theorem dropWhile_stripWhile (p : Char → Bool) (cs : List Char) :
    (stripWhile p cs).dropWhile p = stripWhile p cs :=
  dropWhile_of_prefix (List.rdropWhile_prefix p _) (List.dropWhile_idempotent p cs)

/-- What neither starts nor ends with one of the characters stays as it is. -/
theorem stripWhile_eq_self {p : Char → Bool} {cs : List Char}
    (hfirst : ∀ c, cs.head? = some c → p c = false)
    (hlast : ∀ c, cs.getLast? = some c → p c = false) :
    stripWhile p cs = cs := by
  have hdrop : cs.dropWhile p = cs := by
    cases cs with
    | nil => rfl
    | cons c rest => rw [List.dropWhile_cons_of_neg (by simp [hfirst c rfl])]
  rw [stripWhile, hdrop, dropEndWhile_eq, List.rdropWhile_eq_self_iff]
  intro hne
  simp [hlast _ (List.getLast?_eq_some_getLast hne)]

/-- What stays as it is starts with none of the characters. -/
theorem head?_of_stripWhile_eq {p : Char → Bool} {cs : List Char} {c : Char}
    (h : stripWhile p cs = cs) (hc : cs.head? = some c) : p c = false := by
  have hdrop : cs.dropWhile p = cs := by
    rw [← h, dropWhile_stripWhile]
  obtain ⟨rest, rfl⟩ := List.head?_eq_some_iff.mp hc
  rw [List.dropWhile_eq_self_iff] at hdrop
  exact Bool.eq_false_iff.mpr (hdrop (Nat.succ_pos _))

/-- What stays as it is ends with none of the characters. -/
theorem getLast?_of_stripWhile_eq {p : Char → Bool} {cs : List Char} {c : Char}
    (h : stripWhile p cs = cs) (hc : cs.getLast? = some c) : p c = false := by
  have hne : cs ≠ [] := by
    rintro rfl
    cases hc
  rw [← h, stripWhile, dropEndWhile_eq] at hne hc
  rw [List.getLast?_eq_some_getLast hne, Option.some.injEq] at hc
  rw [← hc]
  simpa using List.rdropWhile_last_not p _ hne

/-- To remove characters at both ends is idempotent. -/
theorem stripWhile_stripWhile (p : Char → Bool) (cs : List Char) :
    stripWhile p (stripWhile p cs) = stripWhile p cs := by
  calc stripWhile p (stripWhile p cs)
      = ((stripWhile p cs).dropWhile p).rdropWhile p := rfl
    _ = (stripWhile p cs).rdropWhile p := by rw [dropWhile_stripWhile]
    _ = stripWhile p cs := List.rdropWhile_idempotent p _

/-- Nothing but characters of that kind is removed at the ends. -/
theorem exists_eq_append_stripWhile (p : Char → Bool) (cs : List Char) :
    ∃ before behind, (∀ c ∈ before, p c = true) ∧ (∀ c ∈ behind, p c = true) ∧
      cs = before ++ (stripWhile p cs ++ behind) := by
  refine ⟨cs.takeWhile p, ((cs.dropWhile p).reverse.takeWhile p).reverse,
    fun c hc => List.mem_takeWhile_imp hc, fun c hc => ?_, ?_⟩
  · exact List.mem_takeWhile_imp (List.mem_reverse.mp hc)
  · rw [stripWhile, dropEndWhile, ← List.reverse_append, List.takeWhile_append_dropWhile,
      List.reverse_reverse, List.takeWhile_append_dropWhile]

/-- Nothing is left of a text exactly when it is blank. -/
theorem trimStart_eq_nil_iff {cs : List Char} : trimStart cs = [] ↔ cs.all isBlank = true := by
  rw [trimStart, List.dropWhile_eq_nil_iff, List.all_eq_true]

end Chars

namespace Text

/-- Nothing is left of a text exactly when it is blank. -/
theorem trimStart_isEmpty (s : String) : (trimStart s).isEmpty = isAllBlank s := by
  rw [Bool.eq_iff_iff, String.isEmpty_iff, ← String.toList_inj, trimStart, String.toList_ofList,
    isAllBlank]
  exact Chars.trimStart_eq_nil_iff

/-- To remove the blanks at the start is idempotent. -/
theorem trimStart_trimStart (s : String) : trimStart (trimStart s) = trimStart s := by
  rw [trimStart, trimStart, String.toList_ofList, Chars.trimStart, Chars.trimStart,
    List.dropWhile_idempotent]

/-- To trim a text twice is to trim it once. -/
@[simp] theorem trim_trim (s : String) : trim (trim s) = trim s := by
  rw [trim, trim, String.toList_ofList, Chars.trim, Chars.trim, Chars.stripWhile_stripWhile]

end Text

end Lineage
