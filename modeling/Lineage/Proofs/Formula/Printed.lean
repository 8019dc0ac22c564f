import Lineage.Proofs.Formula.Levels
import Lineage.Proofs.Text.Blank

/-!
# A printed formula is read back

What is tighter than all operators between two operands is read at the start of a
text, by induction on the formula: a value, a name, a call with its arguments, an
operator with its operand, and any other formula in parentheses. The levels pass
such an operand on where it has no operator of theirs. So every formula with names
that the grammar has no other use for and without numbers (`Printable`) is read
from its text.

> `parse_print`: a printed formula is read as the formula that was printed.
-/

namespace Lineage.Formula

variable {spelling : Spelling} {f : Formula}

/-! ## Operands -/

/-- A whole printed formula, with space around it. -/
theorem Reads.formula (hf : WellEnded (printed spelling f)) (h : Reads spelling f 0) {fuel : Nat}
    {rest : List Char} (hfuel : (printed spelling f).length ≤ fuel) (hrest : Ends 0 rest) :
    formula (operand fuel) (printed spelling f ++ rest) = .done f (skipSpace rest) := by
  have hread := h fuel rest
  rw [operandText_of_le spelling (Nat.zero_le _)] at hread
  rw [formula_eq, hf.skipSpace_append, hread hfuel hrest, Read.andThen, skipSpace_skipSpace]

/-- Without an operator in front, an operand is a primary one. -/
theorem operand_of_primary {cs : List Char} (h : unaryOperator? (skipSpace cs) = none)
    (fuel : Nat) : operand (fuel + 1) cs = primary (Formula.formula (operand fuel)) cs := by
  rw [operand, h]
  rfl

theorem unaryOperator?_of_symbol {c : Char} (hname : isNameChar c = false)
    (hc : c ∉ ['!', '-', '+']) (cs : List Char) : unaryOperator? (c :: cs) = none := by
  refine unaryOperator?_of_operand (keyword?_of_stops (by decide) (by decide) ?_) hc
  rintro _ ⟨⟩
  exact hname

/-- A looser formula is read from its parentheses. -/
theorem Reads.enclosed (hrank : f.rank < operandRank) (hf : WellEnded (printed spelling f))
    (h : Reads spelling f 0) : Reads spelling f operandRank := by
  intro fuel rest hfuel hrest
  rw [operandText_of_lt spelling hrank] at hfuel ⊢
  rw [List.length_cons, List.length_append, List.length_singleton] at hfuel
  obtain ⟨fuel, rfl⟩ : ∃ n, fuel = n + 1 := ⟨fuel - 1, by omega⟩
  have hopen (cs : List Char) : skipSpace ('(' :: cs) = '(' :: cs := skipSpace_cons rfl cs
  rw [readerFrom_operandRank, List.cons_append, List.append_assoc, List.singleton_append,
    operand_of_primary]
  · rw [primary, hopen]
    simp only
    rw [parenthesized, h.formula hf (by omega) (ends_close rest)]
    rfl
  · rw [hopen, unaryOperator?_of_symbol rfl (by decide)]

/-- An operator in front of an operand is read with it. -/
theorem reads_unary (op : UnaryOperator) (hf : WellEnded (printed spelling f))
    (h : Reads spelling f operandRank) : Reads spelling (unary op f) operandRank := by
  intro fuel rest hfuel hrest
  rw [operandText_of_le spelling (Nat.le_refl operandRank), printed] at hfuel ⊢
  change (spelling.unary op ++ operandText spelling operandRank f).length ≤ fuel at hfuel
  change readerFrom operandRank (operand fuel)
    (spelling.unary op ++ operandText spelling operandRank f ++ rest) = _
  obtain ⟨c, cs, hop, hc⟩ := head_unary spelling op
  obtain ⟨d, ds, htext, hd⟩ := (hf.operandText (i := operandRank)).first
  obtain ⟨behind, hread, hskip⟩ := unaryOperator?_unary spelling op hd (ds ++ rest)
  rw [List.length_append, hop, List.length_cons] at hfuel
  obtain ⟨fuel, rfl⟩ : ∃ n, fuel = n + 1 := ⟨fuel - 1, by omega⟩
  have hstart : skipSpace (spelling.unary op ++ d :: (ds ++ rest)) =
      spelling.unary op ++ d :: (ds ++ rest) := by
    rw [hop, List.cons_append, skipSpace_cons (isSpace_eq_false_of_isOperandStart hc)]
  have hoperand := h fuel rest (by omega) hrest
  rw [readerFrom_operandRank, htext, List.cons_append] at hoperand
  rw [readerFrom_operandRank, htext, List.append_assoc, List.cons_append, operand, hstart, hread]
  simp only
  rw [hskip, hoperand]
  rfl

/-! ## Values, names and calls -/

theorem numberLiteral_eq_absent {c : Char} (hdigit : c.isDigit = false) (hpoint : c ≠ '.')
    (cs : List Char) : numberLiteral (c :: cs) = .absent := by
  have hmantissa : Decimal.Numeral.mantissa? (c :: cs) = none := by
    rw [Decimal.Numeral.mantissa?, List.takeWhile_cons_of_neg (by simp [hdigit]),
      List.dropWhile_cons_of_neg (by simp [hdigit])]
    simp [hpoint]
  rw [numberLiteral, hmantissa]

/-- What starts like a name is a constant, a call or a name. -/
theorem primary_of_isNameStart {c : Char} (hc : isNameStart c = true) (inner : Reader)
    (cs : List Char) :
    primary inner (c :: cs) =
      ((constant (c :: cs)).orElse fun _ =>
        (functionCall inner (c :: cs)).orElse fun _ =>
          .ofOption ((name? (c :: cs)).map fun (n, rest) => (name n, rest))).andThen
        fun f rest => .done f (skipSpace rest) := by
  have hchar : isNameChar c = true := isNameChar_of_isNameStart hc
  have hne {d : Char} (hd : isNameChar d = false) : c ≠ d := Chars.ne_of_holds hchar hd
  have hparen : parenthesized inner (c :: cs) = .absent := by
    simp [parenthesized, hne (show isNameChar '(' = false by decide)]
  have htext : textLiteral (c :: cs) = .absent := by
    simp [textLiteral, hne (show isNameChar '"' = false by decide),
      hne (show isNameChar '\'' = false by decide)]
  have hnumber : numberLiteral (c :: cs) = .absent :=
    numberLiteral_eq_absent (isDigit_eq_false_of_isNameStart hc) (hne (by decide)) cs
  rw [primary, skipSpace_cons (isSpace_eq_false_of_isNameChar hchar)]
  simp only [hparen, htext, hnumber, Read.orElse]

/-- A word is read in front of what does not go on with it: no operator is taken
from its start unless it is `not`. -/
theorem operand_word {word rest : List Char} (hstart : word.head?.any isNameStart = true)
    (hword : word.all isNameChar = true) (hnot : word.map Char.toLower ≠ "not".toList)
    (hrest : Stops rest) (fuel : Nat) :
    operand (fuel + 1) (word ++ rest) =
      ((constant (word ++ rest)).orElse fun _ =>
        (functionCall (Formula.formula (operand fuel)) (word ++ rest)).orElse fun _ =>
          .done (name (.ofList word)) rest).andThen
        fun f rest => .done f (skipSpace rest) := by
  have hkeyword : keyword? "not".toList (word ++ rest) = none := by
    rw [keyword?_append (by decide) hword hrest, if_neg hnot]
  have hname := name?_append hstart hword hrest
  cases word with
  | nil => cases hstart
  | cons c cs =>
    have hc : isNameStart c = true := hstart
    have hchar := isNameChar_of_isNameStart hc
    rw [List.cons_append] at hkeyword hname ⊢
    rw [operand_of_primary, primary_of_isNameStart hc, hname]
    · rfl
    · rw [skipSpace_cons (isSpace_eq_false_of_isNameChar hchar)]
      exact unaryOperator?_of_operand hkeyword (Chars.not_mem_of_holds hchar (by decide))

theorem constant_word {word rest : List Char} (hword : word.all isNameChar = true)
    (hrest : Stops rest) :
    constant (word ++ rest) =
      if word.map Char.toLower = "true".toList then .done (literal (.bool true)) rest
      else if word.map Char.toLower = "false".toList then .done (literal (.bool false)) rest
      else if word.map Char.toLower = "null".toList then .done (literal .null) rest
      else .absent := by
  have hkeyword {keyword : List Char} (h : keyword.all Char.isLower = true) :=
    keyword?_append h hword hrest
  rw [constant, hkeyword (by decide), hkeyword (by decide), hkeyword (by decide)]
  split_ifs <;> rfl

theorem IsFreeName.constant_eq_absent {n : String} (h : IsFreeName n) {rest : List Char}
    (hrest : Stops rest) : constant (n.toList ++ rest) = .absent := by
  have hfree := h.free
  simp only [reservedWords, List.mem_cons, List.not_mem_nil, or_false, not_or] at hfree
  rw [constant_word h.chars hrest, if_neg hfree.1, if_neg hfree.2.1, if_neg hfree.2.2.1]

theorem IsFreeName.operand_eq {n : String} (h : IsFreeName n) {rest : List Char}
    (hrest : Stops rest) (fuel : Nat) :
    operand (fuel + 1) (n.toList ++ rest) =
      ((functionCall (Formula.formula (operand fuel)) (n.toList ++ rest)).orElse fun _ =>
        .done (name n) rest).andThen fun f rest => .done f (skipSpace rest) := by
  have hfree := h.free
  simp only [reservedWords, List.mem_cons, List.not_mem_nil, or_false, not_or] at hfree
  rw [operand_word h.starts h.chars hfree.2.2.2 hrest, h.constant_eq_absent hrest,
    String.ofList_toList]
  rfl

theorem reads_name {n : String} (h : IsFreeName n) : Reads spelling (name n) operandRank := by
  intro fuel rest hfuel hrest
  rw [operandText_of_le spelling (Nat.le_refl operandRank), printed] at hfuel ⊢
  obtain ⟨c, cs, hcs, -⟩ := h.wellEnded.first
  rw [hcs, List.length_cons] at hfuel
  obtain ⟨fuel, rfl⟩ : ∃ n, fuel = n + 1 := ⟨fuel - 1, by omega⟩
  have hcall (inner : Reader) : functionCall inner (n.toList ++ rest) = .absent := by
    have hparen := hrest.noCall
    rw [functionCall, name?_append h.starts h.chars hrest.stops]
    split
    · rfl
    next hname =>
      obtain ⟨-, rfl⟩ := Prod.mk.inj (Option.some.inj hname)
      split
      next hstart => exact absurd (by rw [hstart]; rfl) hparen
      · rfl
  rw [readerFrom_operandRank, h.operand_eq hrest.stops, hcall]
  rfl

/-- A word that is a constant is read as its value. -/
theorem reads_constant {value : Value} {word : List Char} (hprinted : printedLiteral value = word)
    (hstart : word.head?.any isNameStart = true) (hword : word.all isNameChar = true)
    (hnot : word.map Char.toLower ≠ "not".toList)
    (hconstant : ∀ rest, Stops rest → constant (word ++ rest) = .done (literal value) rest) :
    Reads spelling (literal value) operandRank := by
  intro fuel rest hfuel hrest
  have htext : operandText spelling operandRank (literal value) = word := by
    rw [operandText_of_le spelling (Nat.le_refl operandRank), printed, hprinted]
  rw [htext] at hfuel ⊢
  have hlength : 0 < word.length := by
    cases word with
    | nil => cases hstart
    | cons c cs => exact Nat.succ_pos _
  obtain ⟨fuel, rfl⟩ : ∃ n, fuel = n + 1 := ⟨fuel - 1, by omega⟩
  rw [readerFrom_operandRank, operand_word hstart hword hnot hrest.stops,
    hconstant rest hrest.stops]
  rfl

theorem reads_null : Reads spelling (literal .null) operandRank := by
  refine reads_constant rfl (by decide) (by decide) (by decide) fun rest hrest => ?_
  rw [constant_word (by decide) hrest]
  rfl

theorem reads_bool (b : Bool) : Reads spelling (literal (.bool b)) operandRank := by
  cases b with
  | false =>
    refine reads_constant rfl (by decide) (by decide) (by decide) fun rest hrest => ?_
    rw [constant_word (by decide) hrest]
    rfl
  | true =>
    refine reads_constant rfl (by decide) (by decide) (by decide) fun rest hrest => ?_
    rw [constant_word (by decide) hrest]
    rfl

/-- The quotes that a text literal may stand in. -/
def quotes : List Char :=
  ['\'', '"']

/-- The text between the quotes is read back, up to the closing quote. -/
theorem quoted?_escaped (cs rest : List Char) :
    quoted? '"' ((cs.flatMap fun c => if isEscaped c then ['\\', c] else [c]) ++ '"' :: rest) =
      some (cs, rest) := by
  induction cs with
  | nil => rfl
  | cons c cs ih =>
    rw [List.flatMap_cons]
    cases hc : isEscaped c with
    | true => simp [quoted?, ih]
    | false =>
      have hquote : c ≠ '"' := by
        rintro rfl
        cases hc
      have hbackslash : c ≠ '\\' := by
        rintro rfl
        cases hc
      simp [quoted?, ih, hquote, hbackslash]

/-- **A text in quotes is read as a literal**, up to its closing quote. -/
theorem operand_quoted {quote : Char} (hquote : quote ∈ quotes) {cs text rest : List Char}
    (h : quoted? quote cs = some (text, rest)) (fuel : Nat) :
    operand (fuel + 1) (quote :: cs) =
      .done (literal (.text (.ofList text))) (skipSpace rest) := by
  rcases List.mem_pair.mp hquote with rfl | rfl
  all_goals
    rw [operand_of_primary]
    · rw [primary, skipSpace_cons (by rfl)]
      simp only [parenthesized, textLiteral, h, Option.map_some]
      rfl
    · rw [skipSpace_cons (by rfl), unaryOperator?_of_symbol (by decide) (by decide)]

theorem reads_text (s : String) : Reads spelling (literal (.text s)) operandRank := by
  intro fuel rest hfuel hrest
  have hprinted : printed spelling (literal (.text s)) ++ rest =
      '"' :: ((s.toList.flatMap fun c => if isEscaped c then ['\\', c] else [c]) ++
        '"' :: rest) := by
    rw [printed, printedLiteral, doubleQuoted, String.toList_ofList]
    simp
  rw [operandText_of_le spelling (Nat.le_refl operandRank)] at hfuel ⊢
  have hlength := congrArg List.length hprinted
  rw [List.length_append, List.length_cons, List.length_append, List.length_cons] at hlength
  obtain ⟨fuel, rfl⟩ : ∃ n, fuel = n + 1 := ⟨fuel - 1, by omega⟩
  rw [hprinted, readerFrom_operandRank,
    operand_quoted (by decide) (quoted?_escaped s.toList rest), String.ofList_toList]

/-! ### Calls -/

/-- Whether a printed formula is read where a whole formula is looked for. -/
def ReadsWhole (spelling : Spelling) (fuel : Nat) (f : Formula) : Prop :=
  ∀ rest, Ends 0 rest →
    Formula.formula (operand fuel) (printed spelling f ++ rest) = .done f (skipSpace rest)

variable (spelling) in
theorem printedArguments_ends (args : List Formula) (rest : List Char) :
    Ends 0 (printedArguments spelling args ++ rest) ∧
      skipSpace (printedArguments spelling args ++ rest) =
        printedArguments spelling args ++ rest := by
  cases args with
  | nil =>
    rw [printedArguments]
    exact ⟨ends_close rest, skipSpace_cons rfl rest⟩
  | cons arg args =>
    rw [printedArguments]
    exact ⟨ends_comma _, skipSpace_cons rfl _⟩

variable (spelling) in
theorem length_le_printedArguments (args : List Formula) :
    args.length ≤ (printedArguments spelling args).length := by
  induction args with
  | nil => exact Nat.zero_le _
  | cons arg args ih =>
    rw [printedArguments]
    simp only [List.length_cons, List.length_append]
    omega

/-- **Further arguments are read one by one**, up to the parenthesis. -/
theorem moreArguments_printed {fuel : Nat} {args : List Formula}
    (hread : ∀ arg ∈ args, ReadsWhole spelling fuel arg)
    (hends : ∀ arg ∈ args, WellEnded (printed spelling arg)) (before : List Formula)
    (rest : List Char) {n : Nat} (hn : args.length ≤ n) :
    moreArguments (Formula.formula (operand fuel)) n before
        (printedArguments spelling args ++ rest) =
      .done (before.reverse ++ args) (')' :: rest) := by
  induction args generalizing before n with
  | nil =>
    have hcomma : comma? (')' :: rest) = none := by
      rw [comma?, skipSpace_cons (by rfl)]
      simp
    rw [List.append_nil]
    cases n with
    | zero => rfl
    | succ n =>
      change moreArguments _ _ _ (')' :: rest) = _
      rw [moreArguments, hcomma]
  | cons arg args ih =>
    rw [List.length_cons] at hn
    obtain ⟨n, rfl⟩ : ∃ m, n = m + 1 := ⟨n - 1, by omega⟩
    have hcomma (cs : List Char) : comma? (',' :: ' ' :: cs) = some (skipSpace cs) := by
      rw [comma?, skipSpace_cons (by rfl)]
      simp [skipSpace_space]
    obtain ⟨hbehind, hstart⟩ := printedArguments_ends spelling args rest
    rw [printedArguments, List.cons_append, List.cons_append, moreArguments, hcomma]
    simp only
    rw [List.append_assoc, (hends arg List.mem_cons_self).skipSpace_append,
      hread arg List.mem_cons_self _ hbehind, hstart]
    simp only
    rw [ih (fun a ha => hread a (List.mem_cons_of_mem _ ha))
      (fun a ha => hends a (List.mem_cons_of_mem _ ha)) _ (by omega)]
    simp

/-- What starts neither a name nor a number, a text, a parenthesis or an operator
starts no operand. -/
theorem operand_of_symbol {c : Char} {cs : List Char} (hname : isNameChar c = false)
    (hspace : isSpace c = false) (hdigit : c.isDigit = false)
    (hc : c ∉ ['!', '-', '+', '(', '.']) (htext : textLiteral (c :: cs) = .absent) (fuel : Nat) :
    operand fuel (c :: cs) = .absent := by
  have hskip : skipSpace (c :: cs) = c :: cs := skipSpace_cons hspace cs
  simp only [List.mem_cons, List.not_mem_nil, or_false, not_or] at hc
  cases fuel with
  | zero => rfl
  | succ fuel =>
    have hstops : Stops (c :: cs) := by
      intro d hd
      rw [← Option.some.inj hd]
      exact hname
    have hkeyword (word : List Char) (h : word.all Char.isLower = true) (hne : word ≠ []) :
        keyword? word (c :: cs) = none := keyword?_of_stops h hne hstops
    have hconstant : constant (c :: cs) = .absent := by
      rw [constant, hkeyword _ (by decide) (by decide), hkeyword _ (by decide) (by decide),
        hkeyword _ (by decide) (by decide)]
    have hstart : isNameStart c = false := by
      by_contra h
      rw [isNameChar_of_isNameStart (Bool.not_eq_false _ ▸ h)] at hname
      cases hname
    have hnone : name? (c :: cs) = none := by
      rw [name?, hstart]
      rfl
    have hparen : parenthesized (Formula.formula (operand fuel)) (c :: cs) = .absent := by
      simp [parenthesized, hc.2.2.2.1]
    have hnumber : numberLiteral (c :: cs) = .absent :=
      numberLiteral_eq_absent hdigit hc.2.2.2.2 cs
    rw [operand_of_primary
      (by rw [hskip, unaryOperator?_of_symbol hname (by simp [hc])]), primary, hskip]
    simp only [hparen, htext, hnumber, hconstant, functionCall, hnone]
    rfl

/-- Where no operand starts, no level reads a formula. -/
theorem foldr_joined_of_absent {operand : Reader} {cs : List Char} (h : operand cs = .absent)
    (ls : List Level) : ls.foldr joined operand cs = .absent := by
  induction ls with
  | nil => exact h
  | cons level ls ih =>
    rw [List.foldr_cons, joined, ih]
    rfl

/-- No formula starts with a closing parenthesis. -/
theorem formula_close (fuel : Nat) (rest : List Char) :
    Formula.formula (operand fuel) (')' :: rest) = .absent := by
  have hoperand : operand fuel (')' :: rest) = .absent :=
    operand_of_symbol (by decide) rfl rfl (by decide) (by simp [textLiteral]) fuel
  rw [formula_eq, skipSpace_cons rfl, readerFrom, foldr_joined_of_absent hoperand]
  rfl

theorem functionCall_printed {n : String} (h : IsFreeName n) {args : List Formula}
    {inner : Reader} {cs rest : List Char}
    (hargs : arguments inner (skipSpace cs) = .done args (')' :: rest)) :
    functionCall inner (n.toList ++ '(' :: cs) = .done (call n args) rest := by
  have hstops : Stops ('(' :: cs) := by
    rintro c ⟨⟩
    decide
  have hcomma : comma? (')' :: rest) = none := by
    rw [comma?, skipSpace_cons (by rfl)]
    simp
  rw [functionCall, name?_append h.starts h.chars hstops]
  simp only [skipSpace_cons (show isSpace '(' = false by rfl), hargs, Read.andThen, hcomma,
    Option.getD_none, String.ofList_toList]

variable (spelling) in
theorem length_printed_le {args : List Formula} {arg : Formula} (h : arg ∈ args) :
    (printed spelling arg).length ≤ (printedArguments spelling args).length := by
  induction args with
  | nil => cases h
  | cons first args ih =>
    rw [printedArguments]
    simp only [List.length_cons, List.length_append]
    rcases List.mem_cons.mp h with rfl | h
    · omega
    · have := ih h
      omega

variable (spelling) in
theorem length_printed_lt_call {n : String} {args : List Formula} {arg : Formula} (h : arg ∈ args) :
    (printed spelling arg).length < (printed spelling (call n args)).length := by
  cases args with
  | nil => cases h
  | cons first args =>
    rw [printed]
    simp only [List.length_cons, List.length_append]
    rcases List.mem_cons.mp h with rfl | h
    · omega
    · have := length_printed_le spelling h
      omega

/-- What stands behind the parenthesis of a printed call is read as its arguments. -/
theorem arguments_printed (n : String) {fuel : Nat} {args : List Formula}
    (hread : ∀ arg ∈ args, ReadsWhole spelling fuel arg)
    (hends : ∀ arg ∈ args, WellEnded (printed spelling arg)) (rest : List Char) :
    ∃ cs, printed spelling (call n args) ++ rest = n.toList ++ '(' :: cs ∧
      arguments (Formula.formula (operand fuel)) (skipSpace cs) = .done args (')' :: rest) := by
  cases args with
  | nil =>
    refine ⟨')' :: rest, by simp [printed], ?_⟩
    rw [skipSpace_cons rfl, arguments, formula_close]
  | cons arg args =>
    refine ⟨printed spelling arg ++ (printedArguments spelling args ++ rest), by simp [printed], ?_⟩
    obtain ⟨hbehind, hstart⟩ := printedArguments_ends spelling args rest
    rw [(hends arg List.mem_cons_self).skipSpace_append, arguments,
      hread arg List.mem_cons_self _ hbehind, hstart]
    refine moreArguments_printed (fun a ha => hread a (List.mem_cons_of_mem _ ha))
      (fun a ha => hends a (List.mem_cons_of_mem _ ha)) [arg] rest ?_
    have := length_le_printedArguments spelling args
    rw [List.length_append]
    omega

theorem reads_call {n : String} (h : IsFreeName n) {args : List Formula}
    (hread : ∀ arg ∈ args, Reads spelling arg 0)
    (hends : ∀ arg ∈ args, WellEnded (printed spelling arg)) :
    Reads spelling (call n args) operandRank := by
  intro fuel rest hfuel hrest
  rw [operandText_of_le spelling (Nat.le_refl operandRank)] at hfuel ⊢
  obtain ⟨fuel, rfl⟩ : ∃ n, fuel = n + 1 := by
    refine ⟨fuel - 1, ?_⟩
    have hne : 0 < (printed spelling (call n args)).length := by
      cases args with
      | nil => simp [printed]
      | cons arg args =>
        rw [printed]
        simp only [List.length_append, List.length_cons]
        omega
    omega
  have hargs (arg : Formula) (harg : arg ∈ args) : ReadsWhole spelling fuel arg := by
    intro rest hrest
    have := length_printed_lt_call spelling (n := n) harg
    exact (hread arg harg).formula (hends arg harg) (by omega) hrest
  obtain ⟨cs, htext, hcs⟩ := arguments_printed n hargs hends rest
  have hstops : Stops ('(' :: cs) := by
    rintro c ⟨⟩
    decide
  rw [htext, readerFrom_operandRank, h.operand_eq hstops, functionCall_printed h hcs]
  rfl

/-! ## All formulas -/

/-- A printed formula is read as an operand, and at every level. -/
structure Readable (spelling : Spelling) (f : Formula) : Prop where
  goesOn : ∀ level, GoesOn spelling f level
  operand : Reads spelling f operandRank

theorem Level.rank_lt (level : Level) : level.rank < operandRank := by
  cases level <;> decide

theorem Level.eq_of_rank_eq {level level' : Level} (h : level.rank = level'.rank) :
    level = level' := by
  cases level <;> cases level' <;> first | rfl | cases h

theorem Readable.whole (h : Readable spelling f) : Reads spelling f 0 :=
  (h.goesOn .disjunction).reads

/-- What no operator between two operands is at the top of is passed on by all levels. -/
theorem readable_of_operand (hrank : f.rank = operandRank) (h : Reads spelling f operandRank) :
    Readable spelling f where
  goesOn level := by
    have hlt := level.rank_lt
    exact Reads.goesOn (by omega) (h.down hlt (Nat.le_refl _) (by omega))
  operand := h

/-- **A formula with an operator at the top**: its own level reads it, the looser
ones pass it on, and the tighter ones find it in parentheses. -/
theorem readable_binary {op : BinaryOperator} {left right : Formula}
    (hends : WellEnded (printed spelling (binary op left right)))
    (hright : WellEnded (printed spelling right)) (ihLeft : Readable spelling left)
    (ihRight : Reads spelling right (op.level.rank + 1)) :
    Readable spelling (binary op left right) := by
  have hrank : (binary op left right).rank = op.level.rank := rfl
  have hlt := op.level.rank_lt
  have hown : GoesOn spelling (binary op left right) op.level :=
    goesOn_binary hright (ihLeft.goesOn op.level) ihRight
  have hwhole : Reads spelling (binary op left right) 0 :=
    hown.reads.down (Nat.zero_le _) (Nat.le_of_lt hlt) (by omega)
  have hoperand : Reads spelling (binary op left right) operandRank :=
    hwhole.enclosed (by omega) hends
  refine ⟨fun level => ?_, hoperand⟩
  have hlevel := level.rank_lt
  rcases Nat.lt_trichotomy level.rank op.level.rank with hlooser | hsame | htighter
  · exact Reads.goesOn (by omega) (hown.reads.down hlooser (Nat.le_of_lt hlt) (by omega))
  · rwa [Level.eq_of_rank_eq hsame]
  · exact Reads.goesOn (by omega) (hoperand.down hlevel (Nat.le_refl _) (by omega))

/-- Every level reads what it prints, by induction on the formula. -/
theorem Printable.readable (h : Printable f) : Readable spelling f := by
  induction h with
  | null => exact readable_of_operand rfl reads_null
  | bool b => exact readable_of_operand rfl (reads_bool b)
  | text s => exact readable_of_operand rfl (reads_text s)
  | name free => exact readable_of_operand rfl (reads_name free)
  | @binary op left right hleft hright ihLeft ihRight =>
    refine readable_binary (Printable.binary op hleft hright).wellEnded hright.wellEnded ihLeft ?_
    have hlt := op.level.rank_lt
    rcases Nat.lt_or_eq_of_le (Nat.succ_le_of_lt hlt) with hlevel | hoperand
    · obtain ⟨level, hrank⟩ := exists_level hlevel
      rw [← Nat.succ_eq_add_one, ← hrank]
      exact (ihRight.goesOn level).reads
    · rw [← Nat.succ_eq_add_one, hoperand]
      exact ihRight.operand
  | unary op hoperand ih =>
    exact readable_of_operand rfl (reads_unary op hoperand.wellEnded ih.operand)
  | call free hargs ih =>
    exact readable_of_operand rfl (reads_call free (fun arg harg => (ih arg harg).whole)
      fun arg harg => (hargs arg harg).wellEnded)

/-- What ends well has no blanks to be removed. -/
theorem WellEnded.trim_eq {cs : List Char} (h : WellEnded cs) : Chars.trim cs = cs := by
  obtain ⟨c, rest, hcs, hc⟩ := h.first
  obtain ⟨d, hlast, hd⟩ := h.last
  exact Chars.stripWhile_eq_self (by rw [hcs]; simp [isBlank_eq_false_of_isOperandStart hc])
    (by rw [hlast]; simp [hd])

/-- **Reading undoes printing**, in every spelling: the text of a formula without
numbers, all of whose names are free, is read as that formula. -/
theorem parse_print (spelling : Spelling) (h : Printable f) :
    parse (print spelling f) = .ok f := by
  have hends : WellEnded (printed spelling f) := h.wellEnded
  have hwhole : Reads spelling f 0 := h.readable.whole
  have hread : formula (operand ((printed spelling f).length + 1)) (printed spelling f) =
      .done f [] := by
    have hnil := hwhole.formula hends (Nat.le_succ (printed spelling f).length) ends_nil
    rwa [List.append_nil] at hnil
  unfold parse print
  rw [String.toList_ofList, hends.trim_eq]
  simp only [hread]

/-- A formula in which operators of most levels meet, with a name and a call that
start like operators. -/
def eligible : Formula :=
  binary .and
    (binary .or (name "living")
      (binary .concat (call "andalso" [name "order", literal (.text "a \"b\"")]) (call "last" [])))
    (binary .equals
      (unary .not
        (binary .minus (name "year") (binary .minus (name "birth") (unary .minus (name "x")))))
      (literal (.bool true)))

theorem printable_eligible : Printable eligible := by
  have free {n : String} (h : (n.toList.head?.any isNameStart && n.toList.all isNameChar &&
      decide (n.toList.map Char.toLower ∉ reservedWords)) = true) : IsFreeName n := by
    simp only [Bool.and_eq_true, decide_eq_true_eq] at h
    exact ⟨h.1.1, h.1.2, h.2⟩
  refine .binary _
    (.binary _ (.name (free rfl)) (.binary _ (.call (free rfl) ?_) (.call (free rfl) ?_)))
    (.binary _ (.unary _ (.binary _ (.name (free rfl)) (.binary _ (.name (free rfl))
      (.unary _ (.name (free rfl)))))) (.bool true))
  · intro arg harg
    rcases List.mem_pair.mp harg with rfl | rfl
    · exact .name (free rfl)
    · exact .text _
  · rintro arg ⟨⟩

theorem parse_print_eligible :
    print .words eligible =
        "(living or andalso(order, \"a \\\"b\\\"\") ~ last())" ++
          " and not (year - (birth - -x)) == true" ∧
      Printable eligible ∧ parse (print .words eligible) = .ok eligible :=
  ⟨by decide +kernel, printable_eligible, parse_print .words printable_eligible⟩

end Lineage.Formula
