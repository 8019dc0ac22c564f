import Lineage.Proofs.Formula.Lexis

/-!
# Printed formulas at a level

The grammar reads a formula level by level: an operand, and then as many operators
of the level as there are, each with its own operand. A printed formula gives its
own operators to the right level, and what stands behind it must not go on with one
(`Ends`). Two things are said of a formula at a level. `Reads` is that it is read,
as a whole. `GoesOn` is that after it the level is ready for further operators; this
is what a chain of operators of one level, which leans to the left, is built from.

> `goesOn_binary`: a level that is ready behind the left operand of a printed
> operator is ready again behind the right one.
-/

namespace Lineage.Formula

/-! ## Formulas that can be printed -/

/-- The words that are no names, in small letters. -/
def reservedWords : List (List Char) :=
  ["true".toList, "false".toList, "null".toList, "not".toList]

/-- Whether a text is a name that is no reserved word, in letters of either case. -/
structure IsFreeName (n : String) : Prop where
  starts : n.toList.head?.any isNameStart = true
  chars : n.toList.all isNameChar = true
  free : n.toList.map Char.toLower ∉ reservedWords

/-- A formula without numbers, all of whose names are free. -/
inductive Printable : Formula → Prop
  | null : Printable (literal .null)
  | bool (b : Bool) : Printable (literal (.bool b))
  | text (s : String) : Printable (literal (.text s))
  | name {n : String} (free : IsFreeName n) : Printable (name n)
  | binary (op : BinaryOperator) {left right : Formula} (left_ : Printable left)
      (right_ : Printable right) : Printable (binary op left right)
  | unary (op : UnaryOperator) {operand : Formula} (operand_ : Printable operand) :
      Printable (unary op operand)
  | call {function : String} {args : List Formula} (free : IsFreeName function)
      (args_ : ∀ arg ∈ args, Printable arg) : Printable (call function args)

/-! ## What may stand behind a formula -/

/-- Whether a text goes on neither with a name, nor with a parenthesis, nor with an
operator of a rank or a higher one. -/
structure Ends (i : Nat) (rest : List Char) : Prop where
  stops : Stops rest
  noCall : (skipSpace rest).head? ≠ some '('
  noOperator : ∀ level : Level, i ≤ level.rank → level.operator? (skipSpace rest) = none

theorem Ends.mono {i j : Nat} {rest : List Char} (h : Ends i rest) (hij : i ≤ j) : Ends j rest :=
  ⟨h.stops, h.noCall, fun level hlevel => h.noOperator level (Nat.le_trans hij hlevel)⟩

theorem ends_nil : Ends 0 [] where
  stops := by rintro c ⟨⟩
  noCall := by decide
  noOperator level _ := by cases level <;> rfl

theorem ends_close (rest : List Char) : Ends 0 (')' :: rest) where
  stops := by
    rintro c ⟨⟩
    decide
  noCall := by simp [skipSpace_cons (show isSpace ')' = false from rfl)]
  noOperator level _ := by cases level <;> rfl

theorem ends_comma (rest : List Char) : Ends 0 (',' :: rest) where
  stops := by
    rintro c ⟨⟩
    decide
  noCall := by simp [skipSpace_cons (show isSpace ',' = false from rfl)]
  noOperator level _ := by cases level <;> rfl

variable (spelling : Spelling)

/-- An operator and the space around it. -/
def joint (op : BinaryOperator) (rest : List Char) : List Char :=
  ' ' :: (spelling.binary op ++ ' ' :: rest)

theorem skipSpace_joint (op : BinaryOperator) (rest : List Char) :
    skipSpace (joint spelling op rest) = spelling.binary op ++ ' ' :: rest := by
  obtain ⟨c, cs, hop, hspace, -⟩ := head_binary spelling op
  rw [joint, skipSpace_space, hop, List.cons_append, skipSpace_cons hspace]

/-- Behind the operand of an operator there may be the operator. -/
theorem ends_joint (op : BinaryOperator) (rest : List Char) :
    Ends (op.level.rank + 1) (joint spelling op rest) where
  stops := stops_space _
  noCall := by
    obtain ⟨c, cs, hop, -, hparen⟩ := head_binary spelling op
    rw [skipSpace_joint, hop]
    simpa using hparen
  noOperator level hlevel := by
    rw [skipSpace_joint]
    exact operator?_of_looser spelling hlevel rest

/-! ## How a printed formula starts and ends -/

/-- The text of a formula as an operand of a rank. -/
def operandText (i : Nat) (f : Formula) : List Char :=
  enclosed i f (printed spelling f)

theorem operandText_of_le {i : Nat} {f : Formula} (h : i ≤ f.rank) :
    operandText spelling i f = printed spelling f :=
  if_neg (Nat.not_lt.mpr h)

theorem operandText_of_lt {i : Nat} {f : Formula} (h : f.rank < i) :
    operandText spelling i f = '(' :: (printed spelling f ++ [')']) :=
  if_pos h

theorem printed_binary (op : BinaryOperator) (left right : Formula) (rest : List Char) :
    printed spelling (binary op left right) ++ rest =
      operandText spelling op.level.rank left ++
        joint spelling op (operandText spelling (op.level.rank + 1) right ++ rest) := by
  rw [printed, joint]
  simp [operandText]

variable {spelling} {f : Formula}

/-- The first and the last character of a text that starts an operand and does not
end with a blank. -/
structure WellEnded (cs : List Char) : Prop where
  first : ∃ c rest, cs = c :: rest ∧ isOperandStart c = true
  last : ∃ c, cs.getLast? = some c ∧ Chars.isBlank c = false

theorem WellEnded.operandText {i : Nat} (h : WellEnded (printed spelling f)) :
    WellEnded (operandText spelling i f) := by
  by_cases hi : f.rank < i
  · rw [operandText_of_lt spelling hi]
    refine ⟨⟨'(', _, rfl, by decide⟩, ')', ?_, by decide⟩
    rw [← List.cons_append, List.getLast?_append]
    rfl
  · rwa [operandText_of_le spelling (Nat.not_lt.mp hi)]

/-- No space is passed over in front of an operand. -/
theorem WellEnded.skipSpace_append {cs : List Char} (h : WellEnded cs) (rest : List Char) :
    skipSpace (cs ++ rest) = cs ++ rest := by
  obtain ⟨c, behind, rfl, hc⟩ := h.first
  exact skipSpace_cons (isSpace_eq_false_of_isOperandStart hc) _

/-- A text in front of one that ends well. -/
theorem WellEnded.append {cs ds : List Char}
    (hcs : ∃ c rest, cs = c :: rest ∧ isOperandStart c = true)
    (hds : ∃ c, ds.getLast? = some c ∧ Chars.isBlank c = false) : WellEnded (cs ++ ds) := by
  obtain ⟨c, rest, rfl, hc⟩ := hcs
  obtain ⟨d, hd, hblank⟩ := hds
  exact ⟨⟨c, rest ++ ds, rfl, hc⟩, d, by rw [List.getLast?_append, hd, Option.some_or], hblank⟩

theorem IsFreeName.wellEnded {n : String} (h : IsFreeName n) : WellEnded n.toList := by
  have hne : n.toList ≠ [] := by
    intro hnil
    have := h.starts
    rw [hnil] at this
    cases this
  obtain ⟨c, rest, hcs⟩ := List.exists_cons_of_ne_nil hne
  have hc : isNameStart c = true := by simpa [hcs] using h.starts
  refine ⟨⟨c, rest, hcs, isOperandStart_of_isNameStart hc⟩, _,
    List.getLast?_eq_some_getLast hne, ?_⟩
  have hlast := List.all_eq_true.mp h.chars _ (List.getLast_mem hne)
  by_contra hblank
  rw [isNameChar_eq_false_of_isBlank (by simpa using hblank)] at hlast
  cases hlast

theorem getLast?_printedArguments (args : List Formula) :
    (printedArguments spelling args).getLast? = some ')' := by
  induction args with
  | nil => rfl
  | cons arg rest ih =>
    rw [printedArguments, ← List.cons_append, ← List.cons_append, List.getLast?_append, ih,
      Option.some_or]

theorem getLast?_joint {op : BinaryOperator} {rest : List Char} {c : Char}
    (h : rest.getLast? = some c) : (joint spelling op rest).getLast? = some c := by
  have hjoint : joint spelling op rest = (' ' :: (spelling.binary op ++ [' '])) ++ rest := by
    simp [joint]
  rw [hjoint, List.getLast?_append, h, Option.some_or]

/-- A printed formula starts an operand, and does not end with a blank. -/
theorem Printable.wellEnded (h : Printable f) : WellEnded (printed spelling f) := by
  induction h with
  | null => exact ⟨⟨'n', _, rfl, by decide⟩, 'l', rfl, by decide⟩
  | bool b =>
    cases b with
    | false => exact ⟨⟨'f', _, rfl, by decide⟩, 'e', rfl, by decide⟩
    | true => exact ⟨⟨'t', _, rfl, by decide⟩, 'e', rfl, by decide⟩
  | text s =>
    rw [printed, printedLiteral, doubleQuoted, String.toList_ofList]
    refine ⟨⟨'"', _, rfl, by decide⟩, '"', ?_, by decide⟩
    rw [List.getLast?_append]
    rfl
  | name free =>
    rw [printed]
    exact free.wellEnded
  | @binary op left right _ _ ihLeft ihRight =>
    rw [← List.append_nil (printed spelling _), printed_binary, List.append_nil]
    refine .append ihLeft.operandText.first ?_
    obtain ⟨d, hd, hblank⟩ := (ihRight.operandText (i := op.level.rank + 1)).last
    exact ⟨d, by rw [getLast?_joint hd], hblank⟩
  | unary op _ ih =>
    rw [printed]
    exact .append (head_unary spelling op) ih.operandText.last
  | @call function args free _ _ =>
    cases args with
    | nil =>
      rw [printed]
      exact .append free.wellEnded.first ⟨')', rfl, by decide⟩
    | cons arg rest =>
      rw [printed]
      refine .append free.wellEnded.first ⟨')', ?_, by decide⟩
      rw [← List.cons_append, List.getLast?_append, getLast?_printedArguments, Option.some_or]

/-! ## Reading at a level -/

/-- Reads a formula whose operators are of a rank or a higher one. -/
def readerFrom (i : Nat) (operand : Reader) : Reader :=
  (levels.drop i).foldr joined operand

theorem readerFrom_rank (level : Level) (operand : Reader) :
    readerFrom level.rank operand = joined level (readerFrom (level.rank + 1) operand) := by
  cases level <;> rfl

theorem readerFrom_operandRank (operand : Reader) : readerFrom operandRank operand = operand :=
  rfl

theorem exists_level {i : Nat} (h : i < operandRank) : ∃ level : Level, level.rank = i := by
  refine ⟨levels.get ⟨i, h⟩, ?_⟩
  revert i
  decide

theorem formula_eq (operand : Reader) (cs : List Char) :
    formula operand cs =
      (readerFrom 0 operand (skipSpace cs)).andThen fun f rest => .done f (skipSpace rest) :=
  rfl

variable (spelling f) in
/-- A printed formula is read as an operand of a rank, in front of whatever may
stand behind it. -/
def Reads (i : Nat) : Prop :=
  ∀ fuel rest, (operandText spelling i f).length ≤ fuel → Ends i rest →
    readerFrom i (operand fuel) (operandText spelling i f ++ rest) = .done f (skipSpace rest)

variable (spelling f) in
/-- Behind a printed formula the level that reads it goes on with more operators. -/
def GoesOn (level : Level) : Prop :=
  ∀ fuel rest, (operandText spelling level.rank f).length ≤ fuel → Ends (level.rank + 1) rest →
    ∃ n, (skipSpace rest).length ≤ n ∧
      readerFrom level.rank (operand fuel) (operandText spelling level.rank f ++ rest) =
        moreOperands level (readerFrom (level.rank + 1) (operand fuel)) n f (skipSpace rest)

theorem moreOperands_of_none {level : Level} {cs : List Char}
    (h : level.operator? (skipSpace cs) = none) (operand : Reader) (n : Nat) (left : Formula) :
    moreOperands level operand n left cs = .done left cs := by
  cases n with
  | zero => rfl
  | succ n => rw [moreOperands, h]

/-- The whole formula is read where no operator of the level follows. -/
theorem GoesOn.reads {level : Level} (h : GoesOn spelling f level) :
    Reads spelling f level.rank := by
  intro fuel rest hfuel hrest
  obtain ⟨n, -, hread⟩ := h fuel rest hfuel (hrest.mono (Nat.le_succ _))
  rw [hread, moreOperands_of_none]
  rw [skipSpace_skipSpace]
  exact hrest.noOperator level (Nat.le_refl _)

/-- A formula of another level is the first operand of this one. -/
theorem Reads.goesOn {level : Level} (hrank : f.rank ≠ level.rank)
    (h : Reads spelling f (level.rank + 1)) : GoesOn spelling f level := by
  intro fuel rest hfuel hrest
  have htext : operandText spelling level.rank f = operandText spelling (level.rank + 1) f := by
    have hlt : f.rank < level.rank ↔ f.rank < level.rank + 1 := by omega
    simp only [operandText, enclosed, hlt]
  refine ⟨_, Nat.le_refl _, ?_⟩
  rw [htext] at hfuel ⊢
  rw [readerFrom_rank, joined, h fuel rest hfuel hrest]
  rfl

/-- **The step of a chain**: a level that is ready for an operator behind the left
operand reads it with the right one, and is ready again. -/
theorem goesOn_binary {op : BinaryOperator} {left right : Formula}
    (hright : WellEnded (printed spelling right)) (ihLeft : GoesOn spelling left op.level)
    (ihRight : Reads spelling right (op.level.rank + 1)) :
    GoesOn spelling (binary op left right) op.level := by
  intro fuel rest hfuel hrest
  have htext : operandText spelling op.level.rank (binary op left right) =
      printed spelling (binary op left right) :=
    operandText_of_le spelling (Nat.le_refl op.level.rank)
  rw [htext] at hfuel ⊢
  have hlength := congrArg List.length (printed_binary spelling op left right [])
  simp only [List.append_nil, List.length_append, joint, List.length_cons] at hlength
  rw [printed_binary]
  obtain ⟨n, hn, hread⟩ := ihLeft fuel _ (by omega)
    (ends_joint spelling op (operandText spelling (op.level.rank + 1) right ++ rest))
  rw [skipSpace_joint] at hn hread
  rw [hread]
  obtain ⟨c, cs, hop, hspace, -⟩ := head_binary spelling op
  simp only [hop, List.cons_append, List.length_cons, List.length_append] at hn
  obtain ⟨m, rfl⟩ : ∃ m, n = m + 1 := ⟨n - 1, by omega⟩
  refine ⟨m, ?_, ?_⟩
  · have := length_skipSpace_le rest
    omega
  · rw [moreOperands, hop, List.cons_append, skipSpace_cons hspace, ← List.cons_append, ← hop,
      operator?_binary]
    simp only
    rw [skipSpace_space, hright.operandText.skipSpace_append, ihRight fuel rest (by omega) hrest]

/-- A level at which the formula has no operator of its own only passes it on. -/
theorem Reads.down {i j : Nat} (hij : i ≤ j) (hj : j ≤ operandRank)
    (hrank : ∀ k, i ≤ k → k < j → f.rank ≠ k) (h : Reads spelling f j) : Reads spelling f i := by
  induction j, hij using Nat.le_induction with
  | base => exact h
  | succ j hij ih =>
    obtain ⟨level, rfl⟩ := exists_level (Nat.lt_of_succ_le hj)
    exact ih (Nat.le_of_succ_le hj) (fun k hik hk => hrank k hik (Nat.lt_succ_of_lt hk))
      (h.goesOn (hrank _ hij (Nat.lt_succ_self _))).reads

end Lineage.Formula
