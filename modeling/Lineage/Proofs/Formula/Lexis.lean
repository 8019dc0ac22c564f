import Mathlib.Data.List.DropRight
import Lineage.Formula.Printed
import Lineage.Proofs.Text.Pieces

/-!
# Words and operators in front of a text

What the grammar reads first at the start of a text: space, a word, an operator.
The readers look at the longest run of name characters, so that a keyword is never
taken from the start of a longer name (`keyword?_append`), and operators are read
as they are printed: each at its own level, and at no tighter one.

> `operator?_binary`, `operator?_of_looser`: a printed operator is read at its
> level, and is none at the levels that are tighter.
-/

namespace Lineage.Formula

/-! ## Characters -/

theorem toNat_lt_of_isAlphanum {c : Char} (h : c.isAlphanum = true) : c.toNat < 128 := by
  rw [Char.isAlphanum, Bool.or_eq_true, Chars.isAlpha_iff, Chars.isUpper_iff, Chars.isLower_iff,
    Chars.isDigit_iff] at h
  omega

/-- A letter of the alphabet may start a name. -/
theorem isNameStart_of_isAlpha {c : Char} (h : c.isAlpha = true) : isNameStart c = true := by
  have halphanum : c.isAlphanum = true := by rw [Char.isAlphanum, h, Bool.true_or]
  rw [isNameStart, Chars.isAlphabetic, if_pos (toNat_lt_of_isAlphanum halphanum), h, Bool.true_or]

theorem isNameChar_of_isNameStart {c : Char} (h : isNameStart c = true) : isNameChar c = true := by
  by_cases hc : c.toNat < 128
  · rw [isNameStart, Chars.isAlphabetic, if_pos hc] at h
    rw [isNameChar, Chars.isAlphanumeric, if_pos hc, Char.isAlphanum]
    rcases (Bool.or_eq_true ..).mp h with h | h
    · rw [h, Bool.true_or, Bool.true_or]
    · rw [h, Bool.or_true]
  · rw [isNameStart, Chars.isAlphabetic, if_neg hc] at h
    rw [isNameChar, Chars.isAlphanumeric, if_neg hc]
    rcases (Bool.or_eq_true ..).mp h with h | h
    · rw [h, Bool.true_or, Bool.true_or]
    · rw [h, Bool.or_true]

/-- No name starts with a digit. -/
theorem isDigit_eq_false_of_isNameStart {c : Char} (h : isNameStart c = true) :
    c.isDigit = false := by
  by_contra hdigit
  rw [Bool.not_eq_false] at hdigit
  have hlt : c.toNat < 128 := toNat_lt_of_isAlphanum (by rw [Char.isAlphanum, hdigit, Bool.or_true])
  rw [isNameStart, Chars.isAlphabetic, if_pos hlt, Bool.or_eq_true] at h
  rcases h with h | h
  · rw [Chars.isAlpha_iff, Chars.isUpper_iff, Chars.isLower_iff] at h
    rw [Chars.isDigit_iff] at hdigit
    omega
  · rw [beq_iff_eq.mp h] at hdigit
    cases hdigit

/-- The code points of the blanks. -/
def blankCodes : List Nat :=
  [9, 10, 11, 12, 13, 0x20, 0x85, 0xA0, 0x1680, 0x2000, 0x2001, 0x2002, 0x2003, 0x2004, 0x2005,
    0x2006, 0x2007, 0x2008, 0x2009, 0x200A, 0x2028, 0x2029, 0x202F, 0x205F, 0x3000]

/-- What none of the blanks has, no blank has. -/
theorem eq_false_of_isBlank {p : Char → Bool} (hall : ∀ n ∈ blankCodes, p (Char.ofNat n) = false)
    {c : Char} (h : Chars.isBlank c = true) : p c = false := by
  have hcode : c.toNat ∈ blankCodes := by
    simp only [Chars.isBlank, Bool.or_eq_true, Bool.and_eq_true, decide_eq_true_eq, beq_iff_eq] at h
    simp only [blankCodes, List.mem_cons, List.not_mem_nil, or_false]
    omega
  rw [← Char.ofNat_toNat c]
  exact hall _ hcode

/-- No blank may be in a name. -/
theorem isNameChar_eq_false_of_isBlank {c : Char} (h : Chars.isBlank c = true) :
    isNameChar c = false :=
  eq_false_of_isBlank (by decide +kernel) h

theorem isSpace_eq_false_of_isNameChar {c : Char} (h : isNameChar c = true) :
    isSpace c = false := by
  have hspace := Chars.ne_of_holds h (d := ' ') (by decide)
  have htab := Chars.ne_of_holds h (d := '\t') (by decide)
  have hreturn := Chars.ne_of_holds h (d := '\r') (by decide)
  have hfeed := Chars.ne_of_holds h (d := '\n') (by decide)
  simp [isSpace, hspace, htab, hreturn, hfeed]

/-- What is a small letter in small letters may start a name. -/
theorem isNameStart_of_isLower_toLower {c : Char} (h : c.toLower.isLower = true) :
    isNameStart c = true := by
  refine isNameStart_of_isAlpha (Chars.isAlpha_iff.mpr ?_)
  unfold Char.toLower at h
  split at h
  next hupper => exact .inl (decide_eq_true hupper)
  next => exact .inr h

/-! ## Space -/

theorem skipSpace_cons {c : Char} (h : isSpace c = false) (cs : List Char) :
    skipSpace (c :: cs) = c :: cs :=
  List.dropWhile_cons_of_neg (by simp [h])

theorem skipSpace_space (cs : List Char) : skipSpace (' ' :: cs) = skipSpace cs :=
  List.dropWhile_cons_of_pos rfl

@[simp] theorem skipSpace_skipSpace (cs : List Char) : skipSpace (skipSpace cs) = skipSpace cs :=
  List.dropWhile_idempotent isSpace cs

theorem length_skipSpace_le (cs : List Char) : (skipSpace cs).length ≤ cs.length :=
  (List.dropWhile_suffix isSpace).length_le

/-! ## Words -/

/-- Whether a text does not go on with a character of a name. -/
def Stops (rest : List Char) : Prop :=
  ∀ c, rest.head? = some c → isNameChar c = false

theorem takeWhile_word {word rest : List Char} (hword : word.all isNameChar = true)
    (hrest : Stops rest) : (word ++ rest).takeWhile isNameChar = word :=
  Chars.takeWhile_run (List.all_eq_true.mp hword) hrest

theorem dropWhile_word {word rest : List Char} (hword : word.all isNameChar = true)
    (hrest : Stops rest) : (word ++ rest).dropWhile isNameChar = rest :=
  Chars.dropWhile_run (List.all_eq_true.mp hword) hrest

/-- What is a given word of small letters, in letters of either case, has name
characters only. -/
theorem all_isNameChar_of_map_toLower {word cs : List Char} (hword : word.all Char.isLower = true)
    (h : cs.map Char.toLower = word) : cs.all isNameChar = true := by
  rw [← h, List.all_map] at hword
  rw [List.all_eq_true] at hword ⊢
  exact fun c hc => isNameChar_of_isNameStart (isNameStart_of_isLower_toLower (hword c hc))

/-- **A keyword is the whole run of name characters that a text starts with**, in
letters of either case. -/
theorem keyword?_append {word cs rest : List Char} (hword : word.all Char.isLower = true)
    (hcs : cs.all isNameChar = true) (hrest : Stops rest) :
    keyword? word (cs ++ rest) = if cs.map Char.toLower = word then some rest else none := by
  by_cases h : cs.map Char.toLower = word
  · have hlength : word.length = cs.length := by rw [← h, List.length_map]
    have hstops : rest.head?.any isNameChar = false := by
      cases rest with
      | nil => rfl
      | cons c rest => exact hrest c rfl
    rw [if_pos h, keyword?, hlength, List.take_left, List.drop_left, hstops]
    simp [h]
  · rw [if_neg h, keyword?, if_neg]
    rintro ⟨hfound, hstops⟩
    -- what was found would be the whole run of name characters
    have hname := all_isNameChar_of_map_toLower hword hfound
    have hbehind : Stops ((cs ++ rest).drop word.length) := by
      intro c hc
      rw [hc] at hstops
      simpa using hstops
    have hrun := takeWhile_word hname hbehind
    rw [List.take_append_drop, takeWhile_word hcs hrest] at hrun
    exact h (hrun ▸ hfound)

/-- Without a name character at its start a text starts with no keyword. -/
theorem keyword?_of_stops {word rest : List Char} (hword : word.all Char.isLower = true)
    (hne : word ≠ []) (hrest : Stops rest) : keyword? word rest = none := by
  rw [← List.nil_append rest, keyword?_append hword rfl hrest, if_neg]
  exact fun h => hne h.symm

theorem name?_append {cs rest : List Char} (hstart : cs.head?.any isNameStart = true)
    (hcs : cs.all isNameChar = true) (hrest : Stops rest) :
    name? (cs ++ rest) = some (.ofList cs, rest) := by
  cases cs with
  | nil => cases hstart
  | cons c cs =>
    rw [List.all_cons, Bool.and_eq_true] at hcs
    have hc : isNameStart c = true := hstart
    rw [List.cons_append, name?, if_pos hc, takeWhile_word hcs.2 hrest, dropWhile_word hcs.2 hrest]

/-! ## Operators between two operands -/

section

variable (spelling : Spelling)

/-- A space comes behind a printed operator. -/
theorem stops_space (rest : List Char) : Stops (' ' :: rest) := by
  rintro c ⟨⟩
  decide

/-- A word of letters starts like a name. -/
theorem head_of_map_toLower {cs word : List Char} {w : Char} (hw : w.isLower = true)
    (h : cs.map Char.toLower = w :: word) :
    ∃ c rest, cs = c :: rest ∧ c.toLower = w ∧ isNameStart c = true := by
  cases cs with
  | nil => cases h
  | cons c rest =>
    have hc : c.toLower = w := (List.cons.inj h).1
    exact ⟨c, rest, rfl, hc, isNameStart_of_isLower_toLower (hc ▸ hw)⟩

/-- The operators from the comparisons on are symbols. -/
theorem operator?_of_isNameChar {c : Char} (h : isNameChar c = true) (cs : List Char)
    {level : Level} (hlevel : 2 ≤ level.rank) : level.operator? (c :: cs) = none := by
  have hne (d : Char) (hd : isNameChar d = false) : d ≠ c := (Chars.ne_of_holds h hd).symm
  have hequal := hne '=' (by decide)
  have hnot := hne '!' (by decide)
  have hless := hne '<' (by decide)
  have hgreater := hne '>' (by decide)
  have hplus := hne '+' (by decide)
  have hminus := hne '-' (by decide)
  have htilde := hne '~' (by decide)
  have htimes := hne '*' (by decide)
  have hslash := hne '/' (by decide)
  have hpercent := hne '%' (by decide)
  cases level with
  | disjunction | conjunction => simp [Level.rank] at hlevel
  | _ =>
    simp [Level.operator?, symbol?, Chars.after?, hequal, hnot, hless, hgreater, hplus, hminus,
      htilde, htimes, hslash, hpercent]

/-- **A printed operator is read at its level.** -/
theorem operator?_binary (op : BinaryOperator) (rest : List Char) :
    op.level.operator? (spelling.binary op ++ ' ' :: rest) = some (op, ' ' :: rest) := by
  cases op with
  | or =>
    rw [Spelling.binary, BinaryOperator.level, Level.operator?]
    rcases spelling.isDisjunction with hword | hsymbol
    · have hname := all_isNameChar_of_map_toLower (by decide) hword
      rw [keyword?_append (by decide) hname (stops_space rest), if_pos hword]
      rfl
    · rw [hsymbol]
      rfl
  | and =>
    rw [Spelling.binary, BinaryOperator.level, Level.operator?]
    rcases spelling.isConjunction with hword | hsymbol
    · have hname := all_isNameChar_of_map_toLower (by decide) hword
      rw [keyword?_append (by decide) hname (stops_space rest), if_pos hword]
      rfl
    · rw [hsymbol]
      rfl
  | _ => rfl

/-- **A printed operator is none at a tighter level.** -/
theorem operator?_of_looser {op : BinaryOperator} {level : Level}
    (h : op.level.rank < level.rank) (rest : List Char) :
    level.operator? (spelling.binary op ++ ' ' :: rest) = none := by
  cases op with
  | or =>
    rcases spelling.isDisjunction with hword | hsymbol
    · have hname := all_isNameChar_of_map_toLower (by decide) hword
      obtain ⟨c, cs, hcs, hc, hstart⟩ := head_of_map_toLower (by decide) hword
      cases level with
      | disjunction => exact absurd h (Nat.lt_irrefl _)
      | conjunction =>
        have hkeyword : keyword? "and".toList (spelling.disjunction ++ ' ' :: rest) = none := by
          rw [keyword?_append (by decide) hname (stops_space rest), hword, if_neg (by decide)]
        have hsymbol : Chars.after? "&&".toList (spelling.disjunction ++ ' ' :: rest) = none := by
          rw [hcs]
          refine if_neg ?_
          rintro rfl
          revert hc
          decide
        rw [Level.operator?, Spelling.binary, hkeyword, hsymbol]
        rfl
      | _ =>
        rw [Spelling.binary, hcs]
        exact operator?_of_isNameChar (isNameChar_of_isNameStart hstart) _ (by decide)
    · rw [Spelling.binary, hsymbol]
      cases level <;> first | rfl | exact absurd h (Nat.lt_irrefl _)
  | and =>
    rcases spelling.isConjunction with hword | hsymbol
    · obtain ⟨c, cs, hcs, -, hstart⟩ := head_of_map_toLower (by decide) hword
      rw [Spelling.binary, hcs]
      exact operator?_of_isNameChar (isNameChar_of_isNameStart hstart) _ h
    · rw [Spelling.binary, hsymbol]
      cases level <;> first | rfl | exact absurd h (by decide)
  | _ => cases level <;> first | rfl | exact absurd h (by decide)

/-- A printed operator starts neither with space nor with a parenthesis. -/
theorem head_binary (op : BinaryOperator) :
    ∃ c cs, spelling.binary op = c :: cs ∧ isSpace c = false ∧ c ≠ '(' := by
  have hword {cs : List Char} {w : Char} {word : List Char} (hw : w.isLower = true)
      (h : cs.map Char.toLower = w :: word) :
      ∃ c rest, cs = c :: rest ∧ isSpace c = false ∧ c ≠ '(' := by
    obtain ⟨c, rest, hcs, -, hstart⟩ := head_of_map_toLower hw h
    have hc := isNameChar_of_isNameStart hstart
    exact ⟨c, rest, hcs, isSpace_eq_false_of_isNameChar hc, Chars.ne_of_holds hc (by decide)⟩
  cases op with
  | or =>
    rcases spelling.isDisjunction with h | h
    · exact hword (by decide) h
    · exact ⟨'|', ['|'], h, rfl, by decide⟩
  | and =>
    rcases spelling.isConjunction with h | h
    · exact hword (by decide) h
    · exact ⟨'&', ['&'], h, rfl, by decide⟩
  | _ => exact ⟨_, _, rfl, rfl, by decide⟩

end

/-! ## Operators in front of an operand -/

/-- Whether a character starts an operand. -/
def isOperandStart (c : Char) : Bool :=
  isNameStart c || ['"', '(', '!', '-', '+'].contains c

theorem isOperandStart_of_isNameStart {c : Char} (h : isNameStart c = true) :
    isOperandStart c = true := by
  rw [isOperandStart, h, Bool.true_or]

/-- What starts an operand is no blank. -/
theorem isBlank_eq_false_of_isOperandStart {c : Char} (h : isOperandStart c = true) :
    Chars.isBlank c = false := by
  by_contra hblank
  rw [Bool.not_eq_false] at hblank
  rw [isOperandStart, Bool.or_eq_true, List.contains_iff_mem] at h
  rcases h with h | h
  · have hname := isNameChar_eq_false_of_isBlank hblank
    rw [isNameChar_of_isNameStart h] at hname
    cases hname
  · exact Chars.not_mem_of_holds hblank (by decide) h

theorem isSpace_eq_false_of_isOperandStart {c : Char} (h : isOperandStart c = true) :
    isSpace c = false := by
  by_contra hspace
  rw [Bool.not_eq_false] at hspace
  have hblank := isBlank_eq_false_of_isOperandStart h
  have hcases : c = ' ' ∨ c = '\t' ∨ c = '\r' ∨ c = '\n' := by
    simpa [isSpace, or_assoc] using hspace
  rcases hcases with rfl | rfl | rfl | rfl <;> cases hblank

/-- A printed operator in front of an operand starts one. -/
theorem head_unary (spelling : Spelling) (op : UnaryOperator) :
    ∃ c cs, spelling.unary op = c :: cs ∧ isOperandStart c = true := by
  cases op with
  | not =>
    rcases spelling.isNegation with ⟨word, htext, hword⟩ | hsymbol
    · obtain ⟨c, cs, rfl, -, hstart⟩ := head_of_map_toLower (by decide) hword
      exact ⟨c, cs ++ [' '], htext, isOperandStart_of_isNameStart hstart⟩
    · exact ⟨'!', [], hsymbol, rfl⟩
  | minus => exact ⟨'-', [], rfl, rfl⟩
  | plus => exact ⟨'+', [], rfl, rfl⟩

/-- **A printed operator in front of an operand is read**, and leaves the operand,
as far as space does not count. -/
theorem unaryOperator?_unary (spelling : Spelling) (op : UnaryOperator) {c : Char}
    (hc : isOperandStart c = true) (cs : List Char) :
    ∃ rest, unaryOperator? (spelling.unary op ++ c :: cs) = some (op, rest) ∧
      skipSpace rest = c :: cs := by
  have hskip : skipSpace (c :: cs) = c :: cs :=
    skipSpace_cons (isSpace_eq_false_of_isOperandStart hc) cs
  cases op with
  | not =>
    rcases spelling.isNegation with ⟨word, htext, hword⟩ | hsymbol
    · refine ⟨' ' :: c :: cs, ?_, by rw [skipSpace_space, hskip]⟩
      have hname := all_isNameChar_of_map_toLower (by decide) hword
      rw [Spelling.unary, htext, List.append_assoc, List.singleton_append]
      unfold unaryOperator?
      rw [keyword?_append (by decide) hname (stops_space _), if_pos hword]
    · refine ⟨c :: cs, ?_, hskip⟩
      have hequal : c ≠ '=' := Chars.ne_of_holds hc (by decide)
      have hkeyword : keyword? "not".toList ('!' :: c :: cs) = none := rfl
      rw [Spelling.unary, hsymbol]
      change unaryOperator? ('!' :: c :: cs) = _
      unfold unaryOperator?
      rw [hkeyword]
      simp [hequal]
  | minus =>
    exact ⟨c :: cs, rfl, hskip⟩
  | plus =>
    exact ⟨c :: cs, rfl, hskip⟩

/-- An operand without an operator in front. -/
theorem unaryOperator?_of_operand {c : Char} {cs : List Char}
    (hkeyword : keyword? "not".toList (c :: cs) = none) (hc : c ∉ ['!', '-', '+']) :
    unaryOperator? (c :: cs) = none := by
  unfold unaryOperator?
  rw [hkeyword]
  simp only [List.mem_cons, List.not_mem_nil, or_false, not_or] at hc
  simp [hc]

end Lineage.Formula
