import Mathlib.Tactic.Basic
import Lineage.Pattern.Reading

/-!
# Reading single signs

What a step of the reader does with a sign of the notation when blanks count:
it reads one item, the repetitions behind it, and goes on. A character written
to match as it is, is read as one that stands for its forms, with a backslash
where it needs one and without where it does not.
-/

namespace Lineage

variable {flags : PatternFlags} {c : Char} {rest : List Char}

theorem PatternFlags.skip_eq_self (h : flags.spaced = false) (cs : List Char) :
    flags.skip cs = cs := by
  rw [skip, h]
  rfl

/-! ## Characters as they are -/

namespace Pattern

theorem literal_of_isMeta (h : literal.isMeta c = true) (rest : List Char) :
    literal [c] ++ rest = '\\' :: c :: rest := by
  simp [literal, h]

theorem literal_of_not_isMeta (h : ¬ literal.isMeta c = true) (rest : List Char) :
    literal [c] ++ rest = c :: rest := by
  simp [literal, h]

/-- What a character is written as does not start with a sign that has another
meaning than to make the next one stand for itself. -/
theorem exists_literal_eq_cons (c : Char) (rest : List Char) :
    ∃ d tail, literal [c] ++ rest = d :: tail ∧
      ∀ sign, sign ≠ '\\' → literal.isMeta sign = true → d ≠ sign := by
  by_cases h : literal.isMeta c = true
  · exact ⟨'\\', c :: rest, literal_of_isMeta h rest, fun _ hsign _ => hsign.symm⟩
  · refine ⟨c, rest, literal_of_not_isMeta h rest, ?_⟩
    rintro _ - hmeta rfl
    exact h hmeta

theorem length_literal_pos (c : Char) : 0 < (literal [c]).length := by
  obtain ⟨d, tail, hwritten, -⟩ := exists_literal_eq_cons c []
  rw [List.append_nil] at hwritten
  rw [hwritten]
  exact Nat.zero_lt_succ _

/-- A backslash makes every sign with a meaning stand for itself. -/
theorem escape_of_isMeta (h : literal.isMeta c = true) :
    Escape.ofChars? flags (c :: rest) = some (.char c, rest) := by
  have hown : ∀ c ∈ "\\.+*?()|[]\x7b\x7d^$#&-~".toList, Escape.isOwn c = true := by
    rw [← List.all_eq_true]
    decide
  rw [Escape.ofChars?, if_pos (hown c (List.contains_iff_mem.1 h))]

end Pattern

namespace PatternPart

variable {part read : PatternPart} {done last : List PatternPart} {fuel : Nat}
  {cs more : List Char}

/-! ## Repetitions -/

/-- Whether a text does not start with the sign of a repetition. -/
def StandsAlone (cs : List Char) : Prop :=
  ∀ c ∈ cs.head?, c ≠ '*' ∧ c ≠ '+' ∧ c ≠ '?' ∧ c ≠ '\x7b'

theorem repetition?_eq_none (h : StandsAlone cs) : repetition? flags cs = some none := by
  unfold repetition?
  split
  · exact absurd rfl (h _ rfl).1
  · exact absurd rfl (h _ rfl).2.1
  · exact absurd rfl (h _ rfl).2.2.1
  · exact absurd rfl (h _ rfl).2.2.2
  · rfl

theorem repetitions?_eq_self (hflags : flags.spaced = false) (h : StandsAlone cs) :
    repetitions? flags (fuel + 1) part cs = some (part, cs) := by
  rw [repetitions?, PatternFlags.skip_eq_self hflags, repetition?_eq_none h]
  rfl

theorem afterLazy_eq_self (h : StandsAlone cs) : afterLazy cs = cs := by
  cases cs with
  | nil => rfl
  | cons c cs =>
    have hlazy : '?' ≠ c := (h c rfl).2.2.1.symm
    rw [afterLazy, Chars.after?, if_neg hlazy]
    rfl

/-- A star repeats the part in front of it any number of times. -/
theorem repetitions?_star (hflags : flags.spaced = false) (h : StandsAlone cs) :
    repetitions? flags (fuel + 2) part ('*' :: cs) = some (part.times 0 none, cs) := by
  have hstar : repetition? flags ('*' :: cs) = some (some ((0, none), cs)) := by
    rw [repetition?, afterLazy_eq_self h]
  rw [repetitions?, PatternFlags.skip_eq_self hflags, hstar]
  exact repetitions?_eq_self hflags h

theorem standsAlone_literal (c : Char) (rest : List Char) :
    StandsAlone (Pattern.literal [c] ++ rest) := by
  obtain ⟨d, tail, hwritten, hd⟩ := Pattern.exists_literal_eq_cons c rest
  rw [hwritten]
  rintro _ ⟨⟩
  refine ⟨hd _ ?_ ?_, hd _ ?_ ?_, hd _ ?_ ?_, hd _ ?_ ?_⟩ <;> decide

/-! ## Items -/

/-- An item with its repetitions is put in front of the items read so far. -/
theorem content?_of_item? (hflags : flags.spaced = false)
    (hc : c ≠ ')' ∧ c ≠ '|' ∧ c ≠ '(') (hitem : item? flags (c :: cs) = some (part, rest))
    (hrepeated : repetitions? flags fuel part rest = some (read, more)) :
    content? (fuel + 1) flags done last (c :: cs) =
      content? fuel flags done (read :: last) more := by
  rw [content?, PatternFlags.skip_eq_self hflags]
  split
  · rename_i heq
    cases heq
  · rename_i heq
    exact absurd (List.cons.inj heq).1 hc.1
  · rename_i heq
    exact absurd (List.cons.inj heq).1 hc.2.1
  · rename_i heq
    exact absurd (List.cons.inj heq).1 hc.2.2
  · rw [hitem]
    show (repetitions? flags fuel part rest).bind _ = _
    rw [hrepeated]
    rfl

theorem item?_literal (c : Char) (rest : List Char) :
    item? flags (Pattern.literal [c] ++ rest) =
      some ({ pattern := .oneOf (flags.forms c) }, rest) := by
  by_cases h : Pattern.literal.isMeta c = true
  · rw [Pattern.literal_of_isMeta h, item?, Pattern.escape_of_isMeta h]
    rfl
  · have hplain (sign : Char) (hsign : Pattern.literal.isMeta sign = true) : c ≠ sign := by
      rintro rfl
      exact h hsign
    rw [Pattern.literal_of_not_isMeta h, item?]
    all_goals exact hplain _ (by decide)

/-- A character written to match as it is, is read as an item of its own that
stands for its forms. -/
theorem content?_literal (hflags : flags.spaced = false) (c : Char) (h : StandsAlone rest) :
    content? (fuel + 2) flags done last (Pattern.literal [c] ++ rest) =
      content? (fuel + 1) flags done ({ pattern := .oneOf (flags.forms c) } :: last) rest := by
  have hitem : item? flags (Pattern.literal [c] ++ rest) = _ := item?_literal c rest
  obtain ⟨d, tail, hwritten, hd⟩ := Pattern.exists_literal_eq_cons c rest
  rw [hwritten] at hitem ⊢
  refine content?_of_item? hflags ⟨hd _ ?_ ?_, hd _ ?_ ?_, hd _ ?_ ?_⟩ hitem
    (repetitions?_eq_self hflags h) <;> decide

end PatternPart

end Lineage
