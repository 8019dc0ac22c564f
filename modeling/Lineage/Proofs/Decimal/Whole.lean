import Lineage.Decimal.Whole

/-!
# Whole numbers read back

The digits of a number, with or without zeros in front of them, are read as the number again,
and so is a whole number with its sign, as long as it has few enough bits.
-/

namespace Lineage.Decimal

variable {bits : Nat}

theorem ofDigits?_eq_some {cs : List Char} (hne : cs ≠ [])
    (hdigits : ∀ c ∈ cs, c.isDigit = true) :
    ofDigits? cs = some (Nat.ofDigitChars 10 cs 0) := by
  unfold ofDigits?
  rw [if_pos]
  rw [Bool.and_eq_true, Bool.not_eq_true', List.isEmpty_eq_false_iff, List.all_eq_true]
  exact ⟨hne, hdigits⟩

theorem isDigit_of_mem_padded {width n : Nat} {c : Char} (h : c ∈ (padded width n).toList) :
    c.isDigit = true := by
  rw [padded, String.toList_ofList] at h
  rcases List.mem_append.mp h with hzero | hdigit
  · rw [(List.mem_replicate.mp hzero).2]
    rfl
  · exact Nat.isDigit_of_mem_toDigits (by decide) (by decide) hdigit

theorem padded_ne_nil (width n : Nat) : (padded width n).toList ≠ [] := by
  rw [padded, String.toList_ofList]
  exact List.append_ne_nil_of_right_ne_nil _ Nat.toDigits_ne_nil

/-- Zeros in front of its digits do not change a number. -/
theorem ofDigits?_padded (width n : Nat) : ofDigits? (padded width n).toList = some n := by
  have hzeros : ∀ k, Nat.ofDigitChars 10 (List.replicate k '0') 0 = 0 := by
    intro k
    induction k with
    | zero => rfl
    | succ k ih =>
      rw [List.replicate_succ, Nat.ofDigitChars_cons]
      exact ih
  rw [ofDigits?_eq_some (padded_ne_nil width n) fun c hc => isDigit_of_mem_padded hc, padded,
    String.toList_ofList, Nat.ofDigitChars_append, hzeros, Nat.ofDigitChars_ten_toDigits]

theorem ofDigits?_toDigits (n : Nat) : ofDigits? (Nat.toDigits 10 n) = some n := by
  rw [ofDigits?_eq_some Nat.toDigits_ne_nil fun c hc =>
    Nat.isDigit_of_mem_toDigits (by decide) (by decide) hc, Nat.ofDigitChars_ten_toDigits]

/-- **Digits without a sign** are read as the number that they are the digits of. -/
theorem natural?_of_digits {cs : List Char} {n : Nat} (h : ofDigits? cs = some n)
    (hbits : n < Nat.pow 2 bits) : natural? bits cs = some n := by
  have hsign : ∀ rest, cs ≠ '+' :: rest := by
    rintro rest rfl
    unfold ofDigits? at h
    cases h
  unfold natural?
  split
  next rest => exact absurd rfl (hsign rest)
  next =>
    show (ofDigits? cs).filter _ = some n
    rw [h, Option.filter_some, if_pos (by simpa using hbits)]

theorem toList_toString_ofNat (n : Nat) :
    (toString (Int.ofNat n)).toList = Nat.toDigits 10 n :=
  Nat.toList_repr

theorem toList_toString_negSucc (n : Nat) :
    (toString (Int.negSucc n)).toList = '-' :: Nat.toDigits 10 (n + 1) := by
  rw [← @Nat.toList_repr (n + 1)]
  exact String.toList_append

/-- A whole number is written with digits, and with a minus sign if it is below zero. -/
theorem chars_toString (n : Int) : (toString n).toList ≠ [] ∧
    ∀ c ∈ (toString n).toList, c.isDigit = true ∨ c = '-' := by
  cases n with
  | ofNat n =>
    rw [toList_toString_ofNat]
    refine ⟨Nat.toDigits_ne_nil, ?_⟩
    intro c hc
    exact .inl (Nat.isDigit_of_mem_toDigits (by decide) (by decide) hc)
  | negSucc n =>
    rw [toList_toString_negSucc]
    refine ⟨List.cons_ne_nil _ _, ?_⟩
    intro c hc
    rcases List.mem_cons.mp hc with hsign | hdigit
    · exact .inr hsign
    · exact .inl (Nat.isDigit_of_mem_toDigits (by decide) (by decide) hdigit)

/-- **A whole number that is written out is read again.** -/
theorem integer?_toString {n : Int} (h : n.natAbs < Nat.pow 2 (bits - 1)) :
    integer? bits (toString n).toList = some n := by
  cases n with
  | ofNat n =>
    have hread : natural? (bits - 1) (Nat.toDigits 10 n) = some n :=
      natural?_of_digits (ofDigits?_toDigits n) h
    rw [toList_toString_ofNat]
    unfold integer?
    split
    next rest hrest =>
      -- the first digit is no sign
      have hminus : '-' ∈ Nat.toDigits 10 n := by
        rw [hrest]
        exact List.mem_cons_self
      have hdigit := Nat.isDigit_of_mem_toDigits (by decide) (by decide) hminus
      cases hdigit
    next =>
      rw [hread]
      rfl
  | negSucc n =>
    have hbound : n + 1 ≤ Nat.pow 2 (bits - 1) := Nat.le_of_lt h
    rw [toList_toString_negSucc, integer?, ofDigits?_toDigits, Option.filter_some,
      if_pos (by simpa using hbound)]
    rfl

end Lineage.Decimal
