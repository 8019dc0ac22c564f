import Lineage.Text.Case
import Lineage.Proofs.Text.Blank
import Lineage.Proofs.Text.Lines
import Lineage.Proofs.Text.Pieces

/-!
# The words of a text

Words are what stands between blanks, so a text can be cut at any of its blanks and its words
are those of the two parts. Blanks at the ends make no difference, and neither do they when the
text is put in upper case, which leaves each blank as it is.
-/

namespace Lineage.Chars

theorem splitWhere_ne_nil (p : Char → Bool) (cs : List Char) : splitWhere p cs ≠ [] := by
  cases cs with
  | nil => exact List.cons_ne_nil _ _
  | cons c rest =>
    rw [splitWhere]
    split
    · exact List.cons_ne_nil _ _
    · exact consHead_ne_nil c _

/-- A separator ends a piece, whatever stands before it. -/
theorem splitWhere_append_sep {p : Char → Bool} {sep : Char} (hsep : p sep = true)
    (cs rest : List Char) :
    splitWhere p (cs ++ sep :: rest) = splitWhere p cs ++ splitWhere p rest := by
  induction cs with
  | nil =>
    show (if p sep then [] :: splitWhere p rest else _) = [[]] ++ splitWhere p rest
    rw [if_pos hsep]
    rfl
  | cons c cs ih =>
    rw [List.cons_append, splitWhere, splitWhere, ih]
    by_cases hc : p c = true
    · rw [if_pos hc, if_pos hc, List.cons_append]
    · rw [if_neg hc, if_neg hc, consHead_append (splitWhere_ne_nil p cs)]

section

variable {cs ds blanks : List Char} {b : Char}

/-- **The words of a text are those on either side of a blank.** -/
theorem words_append_blank (hb : isBlank b = true) (cs ds : List Char) :
    words (cs ++ b :: ds) = words cs ++ words ds := by
  rw [words, splitWhere_append_sep hb, List.filter_append]
  rfl

theorem words_of_isWord (hne : cs ≠ []) (hword : IsWord cs) : words cs = [cs] := by
  rw [words, splitWhere_of_forall hword]
  simp [hne]

theorem words_blanks_append (h : ∀ c ∈ blanks, isBlank c = true) (cs : List Char) :
    words (blanks ++ cs) = words cs := by
  induction blanks with
  | nil => rfl
  | cons b blanks ih =>
    have hb := words_append_blank (h b List.mem_cons_self) [] (blanks ++ cs)
    rw [List.cons_append]
    exact hb.trans (ih fun c hc => h c (List.mem_cons_of_mem b hc))

theorem words_append_blanks (h : ∀ c ∈ blanks, isBlank c = true) (cs : List Char) :
    words (cs ++ blanks) = words cs := by
  cases blanks with
  | nil => rw [List.append_nil]
  | cons b blanks =>
    have hrest := words_blanks_append (fun c hc => h c (List.mem_cons_of_mem b hc)) []
    have hnone : words [] = [] := rfl
    rw [List.append_nil] at hrest
    rw [words_append_blank (h b List.mem_cons_self), hrest, hnone, List.append_nil]

/-! ## Upper case -/

theorem upper_append (cs ds : List Char) : upper (cs ++ ds) = upper cs ++ upper ds :=
  List.flatMap_append

theorem upper_cons (c : Char) (cs : List Char) : upper (c :: cs) = upperChar c ++ upper cs :=
  rfl

/-- The code points of the blanks. -/
def blankCodes : List Nat :=
  [9, 10, 11, 12, 13, 0x20, 0x85, 0xA0, 0x1680, 0x2000, 0x2001, 0x2002, 0x2003, 0x2004, 0x2005,
    0x2006, 0x2007, 0x2008, 0x2009, 0x200A, 0x2028, 0x2029, 0x202F, 0x205F, 0x3000]

theorem mem_blankCodes (h : isBlank b = true) : b.toNat ∈ blankCodes := by
  simp only [isBlank, Bool.or_eq_true, Bool.and_eq_true, decide_eq_true_eq, beq_iff_eq] at h
  simp only [blankCodes, List.mem_cons, List.not_mem_nil, or_false]
  omega

theorem upperChar_of_isBlank (h : isBlank b = true) : upperChar b = [b] := by
  have hall : ∀ n ∈ blankCodes, upperChar (Char.ofNat n) = [Char.ofNat n] := by decide +kernel
  have hb := hall b.toNat (mem_blankCodes h)
  rwa [Char.ofNat_toNat] at hb

theorem upper_of_forall (h : ∀ c ∈ cs, upperChar c = [c]) : upper cs = cs := by
  induction cs with
  | nil => rfl
  | cons c cs ih =>
    rw [upper_cons, h c List.mem_cons_self, ih fun d hd => h d (List.mem_cons_of_mem c hd)]
    rfl

theorem upper_blanks (h : ∀ c ∈ blanks, isBlank c = true) : upper blanks = blanks :=
  upper_of_forall fun c hc => upperChar_of_isBlank (h c hc)

/-! ## Trimming -/

/-- What trimming removes are blanks. -/
theorem exists_eq_append_trim (cs : List Char) :
    ∃ before behind, (∀ c ∈ before, isBlank c = true) ∧ (∀ c ∈ behind, isBlank c = true) ∧
      cs = before ++ (trim cs ++ behind) :=
  exists_eq_append_stripWhile isBlank cs

end

end Lineage.Chars
