import Lineage.Formula.Eval
import Lineage.Proofs.Formula.Printed
import Lineage.Proofs.Formula.Substitution

/-!
# Values that are pasted into a formula

A variable is pasted into a formula as a literal in single quotes. There only the
quote is escaped, while the reader takes a backslash as an escape too: a backslash of
the value stands for the character behind it, and in front of a quote or at the end it
sets the quote free that should have been text or should have closed the literal.
`unescaped?` says what is read of a value.

> `parse_variable`: a variable is read back as its value exactly when the value has no
> backslash.

A value that comes from a record is put into double quotes, where the backslash is escaped
too, so that nothing in it is read as an escape.

> `doubleQuoted_read_back`: such a value is read back, whatever it is.
-/

namespace Lineage.Formula

/-! ## Between the quotes -/

theorem quoted?_backslash (quote c : Char) (rest : List Char) :
    quoted? quote ('\\' :: c :: rest) =
      (quoted? quote rest).map fun p => (c :: p.1, p.2) := by
  rw [quoted?]

theorem quoted?_cons {quote c : Char} (hc : c ≠ '\\') (rest : List Char) :
    quoted? quote (c :: rest) =
      if c = quote then some ([], rest)
      else (quoted? quote rest).map fun p => (c :: p.1, p.2) := by
  rw [quoted?]
  intro d ds h
  exact absurd h hc

/-- What is left behind a literal is the end of the text. -/
theorem suffix_of_quoted? {quote : Char} {cs text rest : List Char}
    (h : quoted? quote cs = some (text, rest)) : rest <:+ cs := by
  fun_induction quoted? quote cs generalizing text with
  | case1 => cases h
  | case2 c cs ih =>
    obtain ⟨⟨t, r⟩, hread, heq⟩ := Option.map_eq_some_iff.mp h
    cases heq
    exact ((ih hread).trans (List.suffix_cons c cs)).trans (List.suffix_cons _ _)
  | case3 cs _ =>
    cases h
    exact List.suffix_cons _ _
  | case4 c cs _ _ ih =>
    obtain ⟨⟨t, r⟩, hread, heq⟩ := Option.map_eq_some_iff.mp h
    cases heq
    exact (ih hread).trans (List.suffix_cons c cs)

/-- A value as it stands between single quotes. -/
def singleEscaped (cs : List Char) : List Char :=
  cs.flatMap fun c => if c = '\'' then ['\\', c] else [c]

theorem singleEscaped_quote (cs : List Char) :
    singleEscaped ('\'' :: cs) = '\\' :: '\'' :: singleEscaped cs :=
  rfl

theorem singleEscaped_cons {c : Char} (hc : c ≠ '\'') (cs : List Char) :
    singleEscaped (c :: cs) = c :: singleEscaped cs := by
  rw [singleEscaped, List.flatMap_cons, if_neg hc]
  rfl

/-- A value without a quote stands there as it is. -/
theorem singleEscaped_of_not_mem {cs : List Char} (h : '\'' ∉ cs) : singleEscaped cs = cs := by
  induction cs with
  | nil => rfl
  | cons c cs ih =>
    rw [List.mem_cons, not_or] at h
    rw [singleEscaped_cons (Ne.symm h.1), ih h.2]

theorem singleQuoted_eq (value : String) :
    singleQuoted value = .ofList ('\'' :: (singleEscaped value.toList ++ ['\''])) :=
  rfl

/-- What is read of a value between single quotes: a backslash stands for the character
behind it. There is nothing to be read where it sets a quote free, one of the value or
the closing one. -/
def unescaped? : List Char → Option (List Char)
  | [] => some []
  | ['\\'] => none
  | '\\' :: c :: rest => if c = '\'' then none else (unescaped? rest).map (c :: ·)
  | c :: rest => (unescaped? rest).map (c :: ·)

/-- What is neither a last backslash nor one in front of something is none. -/
theorem ne_backslash {c : Char} {cs : List Char} (hlast : c = '\\' → cs = [] → False)
    (hbackslash : ∀ d ds, c = '\\' → cs = d :: ds → False) : c ≠ '\\' := by
  intro hc
  cases cs with
  | nil => exact hlast hc rfl
  | cons d ds => exact hbackslash d ds hc rfl

/-- **What is read of a value stands up to the closing quote.** -/
theorem quoted?_singleEscaped {cs text : List Char} (h : unescaped? cs = some text)
    (rest : List Char) :
    quoted? '\'' (singleEscaped cs ++ '\'' :: rest) = some (text, rest) := by
  fun_induction unescaped? cs generalizing text with
  | case1 =>
    cases h
    exact if_pos rfl
  | case2 => cases h
  | case3 rest => cases h
  | case4 c cs hc ih =>
    obtain ⟨t, hread, rfl⟩ := Option.map_eq_some_iff.mp h
    rw [singleEscaped_cons (by decide), singleEscaped_cons hc, List.cons_append, List.cons_append,
      quoted?_backslash, ih hread]
    rfl
  | case5 c cs hlast hbackslash ih =>
    obtain ⟨t, hread, rfl⟩ := Option.map_eq_some_iff.mp h
    have hplain : c ≠ '\\' := ne_backslash hlast hbackslash
    by_cases hc : c = '\''
    · rw [hc, singleEscaped_quote, List.cons_append, List.cons_append, quoted?_backslash,
        ih hread]
      rfl
    · rw [singleEscaped_cons hc, List.cons_append, quoted?_cons hplain, if_neg hc, ih hread]
      rfl

/-- What is read as a whole is what is read of the value. -/
theorem unescaped?_of_quoted? {cs text : List Char}
    (h : quoted? '\'' (singleEscaped cs ++ ['\'']) = some (text, [])) :
    unescaped? cs = some text := by
  fun_induction unescaped? cs generalizing text with
  | case1 =>
    cases h
    rfl
  | case2 => cases h
  | case3 rest =>
    -- the backslash is escaped itself, and the quote of the value closes the literal
    rw [singleEscaped_cons (by decide), singleEscaped_quote, List.cons_append, List.cons_append,
      List.cons_append, quoted?_backslash, quoted?_cons (by decide), if_pos rfl] at h
    simp at h
  | case4 c cs hc ih =>
    rw [singleEscaped_cons (by decide), singleEscaped_cons hc, List.cons_append, List.cons_append,
      quoted?_backslash, Option.map_eq_some_iff] at h
    obtain ⟨⟨t, r⟩, hread, heq⟩ := h
    cases heq
    rw [ih hread, Option.map_some]
  | case5 c cs hlast hbackslash ih =>
    have hplain : c ≠ '\\' := ne_backslash hlast hbackslash
    by_cases hc : c = '\''
    · rw [hc, singleEscaped_quote, List.cons_append, List.cons_append, quoted?_backslash,
        Option.map_eq_some_iff] at h
      obtain ⟨⟨t, r⟩, hread, heq⟩ := h
      cases heq
      rw [ih hread, Option.map_some, hc]
    · rw [singleEscaped_cons hc, List.cons_append, quoted?_cons hplain, if_neg hc,
        Option.map_eq_some_iff] at h
      obtain ⟨⟨t, r⟩, hread, heq⟩ := h
      cases heq
      rw [ih hread, Option.map_some]

/-- A value without a backslash is read as it is. -/
theorem unescaped?_of_not_mem {cs : List Char} (h : '\\' ∉ cs) : unescaped? cs = some cs := by
  fun_induction unescaped? cs with
  | case1 => rfl
  | case2 => exact absurd List.mem_cons_self h
  | case3 rest => exact absurd List.mem_cons_self h
  | case4 c rest _ _ => exact absurd List.mem_cons_self h
  | case5 c cs _ _ ih =>
    rw [List.mem_cons, not_or] at h
    rw [ih h.2, Option.map_some]

/-- Every backslash that is read shortens the value. -/
theorem length_of_unescaped? {cs text : List Char} (h : unescaped? cs = some text) :
    text.length ≤ cs.length ∧ ('\\' ∈ cs → text.length < cs.length) := by
  fun_induction unescaped? cs generalizing text with
  | case1 =>
    cases h
    exact ⟨Nat.le_refl _, fun hmem => absurd hmem List.not_mem_nil⟩
  | case2 => cases h
  | case3 rest => cases h
  | case4 c cs hc ih =>
    obtain ⟨t, hread, rfl⟩ := Option.map_eq_some_iff.mp h
    have hle := (ih hread).1
    simp only [List.length_cons]
    omega
  | case5 c cs hlast hbackslash ih =>
    obtain ⟨t, hread, rfl⟩ := Option.map_eq_some_iff.mp h
    obtain ⟨hle, hlt⟩ := ih hread
    simp only [List.length_cons]
    refine ⟨by omega, fun hmem => ?_⟩
    have hrest : '\\' ∈ cs :=
      (List.mem_cons.mp hmem).resolve_left (ne_backslash hlast hbackslash).symm
    have := hlt hrest
    omega

theorem unescaped?_eq_self_iff {cs : List Char} : unescaped? cs = some cs ↔ '\\' ∉ cs := by
  constructor
  · intro h hmem
    exact absurd ((length_of_unescaped? h).2 hmem) (Nat.lt_irrefl _)
  · exact unescaped?_of_not_mem

/-! ## A literal as a whole formula -/

/-- Further operands make an operator the root of a formula. -/
theorem moreOperands_cases {level : Level} {operand : Reader} {n : Nat} {left f : Formula}
    {cs rest : List Char} (h : moreOperands level operand n left cs = .done f rest) :
    (f = left ∧ rest = cs) ∨ ∃ op l r, f = binary op l r := by
  induction n generalizing left cs with
  | zero =>
    cases h
    exact .inl ⟨rfl, rfl⟩
  | succ n ih =>
    rw [moreOperands] at h
    split at h
    next =>
      cases h
      exact .inl ⟨rfl, rfl⟩
    next op behind _ =>
      split at h
      next right rest' _ =>
        rcases ih h with ⟨hf, -⟩ | hroot
        · exact .inr ⟨op, left, right, hf⟩
        · exact .inr hroot
      next =>
        cases h
        exact .inl ⟨rfl, rfl⟩
      next => cases h

/-- Where a value is read at all levels it is read as an operand. -/
theorem literal_of_foldr_joined {operand : Reader} {cs rest : List Char} {value : Value}
    (ls : List Level) (h : ls.foldr joined operand cs = .done (literal value) rest) :
    operand cs = .done (literal value) rest := by
  induction ls with
  | nil => exact h
  | cons level ls ih =>
    rw [List.foldr_cons, joined] at h
    cases hread : ls.foldr joined operand cs with
    | absent =>
      rw [hread] at h
      cases h
    | broken =>
      rw [hread] at h
      cases h
    | done left behind =>
      rw [hread] at h
      rcases moreOperands_cases h with ⟨hleft, hrest⟩ | ⟨op, l, r, hroot⟩
      · rw [← hleft, ← hrest] at hread
        exact ih hread
      · cases hroot

/-- An operand is read at all levels that have no operator behind it. -/
theorem foldr_joined_of_forall {operand : Reader} {cs rest : List Char} {f : Formula}
    (h : operand cs = .done f rest) {ls : List Level}
    (hls : ∀ level ∈ ls, level.operator? (skipSpace rest) = none) :
    ls.foldr joined operand cs = .done f rest := by
  induction ls with
  | nil => exact h
  | cons level ls ih =>
    rw [List.foldr_cons, joined, ih fun l hl => hls l (List.mem_cons_of_mem _ hl)]
    exact moreOperands_of_none (hls level List.mem_cons_self) _ _ _

/-- An operand with nothing behind it is read at all levels. -/
theorem foldr_joined_of_end {operand : Reader} {cs : List Char} {f : Formula}
    (h : operand cs = .done f []) (ls : List Level) : ls.foldr joined operand cs = .done f [] :=
  foldr_joined_of_forall h fun level _ => ends_nil.noOperator level (Nat.zero_le _)

theorem not_blank_of_mem_quotes {quote : Char} (h : quote ∈ quotes) :
    Chars.isBlank quote = false ∧ isSpace quote = false := by
  rcases List.mem_pair.mp h with rfl | rfl <;> exact ⟨rfl, rfl⟩

theorem trim_quoted {quote : Char} (hquote : quote ∈ quotes) (cs : List Char) :
    Chars.trim (quote :: (cs ++ [quote])) = quote :: (cs ++ [quote]) := by
  have hblank := (not_blank_of_mem_quotes hquote).1
  refine Chars.stripWhile_eq_self (fun c hc => ?_) fun c hc => ?_
  · rwa [← Option.some.inj hc]
  · rw [← List.cons_append, List.getLast?_append] at hc
    rwa [← Option.some.inj hc]

/-- A text in quotes, as it stands at the start of a formula, or there is none. -/
theorem operand_quotes {quote : Char} (hquote : quote ∈ quotes) (cs : List Char) (fuel : Nat) :
    operand (fuel + 1) (quote :: cs) =
      match quoted? quote cs with
      | none => .absent
      | some (text, rest) => .done (literal (.text (.ofList text))) (skipSpace rest) := by
  cases h : quoted? quote cs with
  | some p => exact operand_quoted hquote h fuel
  | none =>
    rcases List.mem_pair.mp hquote with rfl | rfl
    · exact operand_of_symbol (by decide) rfl rfl (by decide) (by rw [textLiteral, h]; rfl) _
    · exact operand_of_symbol (by decide) rfl rfl (by decide) (by rw [textLiteral, h]; rfl) _

/-- A text is a formula when all of it is read as one. -/
theorem parse_eq_ok_iff {cs : List Char} (htrim : Chars.trim cs = cs) {f : Formula} :
    parse (.ofList cs) = .ok f ↔ formula (operand (cs.length + 1)) cs = .done f [] := by
  unfold parse
  rw [String.toList_ofList, htrim]
  simp only
  generalize formula (operand (cs.length + 1)) cs = read
  cases read with
  | absent => simp
  | broken => simp
  | done g rest => cases rest <;> simp

/-- Nothing but blanks behind a literal that ends the text is nothing at all: its last
character would be the closing quote. -/
theorem eq_nil_of_quoted? {quote : Char} (hquote : quote ∈ quotes) {cs text rest : List Char}
    (h : quoted? quote (cs ++ [quote]) = some (text, rest)) (hrest : skipSpace rest = []) :
    rest = [] := by
  by_contra hne
  have hlast := (suffix_of_quoted? h).getLast hne
  rw [List.getLast_append_singleton] at hlast
  have hall := List.dropWhile_eq_nil_iff.mp hrest _ (List.getLast_mem hne)
  rw [hlast, (not_blank_of_mem_quotes hquote).2] at hall
  cases hall

/-- **A text in quotes is read as a value exactly when it is one literal.** -/
theorem parse_quoted_iff {quote : Char} (hquote : quote ∈ quotes) {cs : List Char}
    {text : String} :
    parse (.ofList (quote :: (cs ++ [quote]))) = .ok (literal (.text text)) ↔
      quoted? quote (cs ++ [quote]) = some (text.toList, []) := by
  have hspace := (not_blank_of_mem_quotes hquote).2
  rw [parse_eq_ok_iff (trim_quoted hquote cs), formula_eq, skipSpace_cons hspace]
  generalize (quote :: (cs ++ [quote])).length = fuel
  constructor
  · intro h
    cases hread : readerFrom 0 (operand (fuel + 1)) (quote :: (cs ++ [quote])) with
    | absent =>
      rw [hread] at h
      cases h
    | broken =>
      rw [hread] at h
      cases h
    | done f behind =>
      rw [hread] at h
      obtain ⟨rfl, hbehind⟩ := Read.done.inj h
      have hoperand := literal_of_foldr_joined _ hread
      rw [operand_quotes hquote] at hoperand
      split at hoperand
      next => cases hoperand
      next t rest htext =>
        obtain ⟨hliteral, hrest⟩ := Read.done.inj hoperand
        rw [← hrest, skipSpace_skipSpace] at hbehind
        cases hliteral
        rw [htext, eq_nil_of_quoted? hquote htext hbehind, String.toList_ofList]
  · intro h
    have hoperand : operand (fuel + 1) (quote :: (cs ++ [quote])) =
        .done (literal (.text text)) [] := by
      rw [operand_quoted hquote h, String.ofList_toList]
      rfl
    rw [readerFrom, foldr_joined_of_end hoperand]
    rfl

/-! ## Two literals with an operator between them -/

theorem rank_of_mem_drop {i : Nat} {level : Level} (h : level ∈ levels.drop i) :
    i ≤ level.rank := by
  obtain ⟨j, hj, rfl⟩ := List.mem_iff_getElem.mp h
  have hlevel : ∀ k (hk : k < levels.length), (levels[k]).rank = k := by decide
  rw [List.getElem_drop, hlevel]
  exact Nat.le_add_right i j

/-- **Two operands with an operator between them**, where operands are read up to the
operator and up to the end. -/
theorem formula_joint {operand : Reader} {left right : Formula} {cs ds : List Char}
    (spelling : Spelling) (op : BinaryOperator) (hcs : skipSpace cs = cs)
    (hds : skipSpace ds = ds)
    (hleft : operand cs = .done left (spelling.binary op ++ ' ' :: ds))
    (hright : operand ds = .done right []) :
    formula operand cs = .done (binary op left right) [] := by
  obtain ⟨c, symbol, hop, hspace, -⟩ := head_binary spelling op
  have hbehind : skipSpace (spelling.binary op ++ ' ' :: ds) = spelling.binary op ++ ' ' :: ds := by
    rw [hop, List.cons_append, skipSpace_cons hspace]
  -- the tighter levels pass the left operand on, and its own one goes on with the right one
  have htighter : readerFrom (op.level.rank + 1) operand cs =
      .done left (spelling.binary op ++ ' ' :: ds) := by
    refine foldr_joined_of_forall hleft fun level hlevel => ?_
    rw [hbehind]
    exact operator?_of_looser spelling (rank_of_mem_drop hlevel) ds
  have hown : readerFrom op.level.rank operand cs = .done (binary op left right) [] := by
    rw [readerFrom_rank, joined, htighter]
    change moreOperands op.level _ (spelling.binary op ++ ' ' :: ds).length left _ = _
    generalize hn : (spelling.binary op ++ ' ' :: ds).length = n
    obtain ⟨n, rfl⟩ : ∃ m, n = m + 1 := by
      rw [hop, List.cons_append, List.length_cons] at hn
      exact ⟨n - 1, by omega⟩
    rw [moreOperands, hbehind, operator?_binary]
    simp only
    rw [skipSpace_space, hds, readerFrom, foldr_joined_of_end hright]
    exact moreOperands_of_none (ends_nil.noOperator _ (Nat.zero_le _)) _ _ _
  have hwhole : readerFrom 0 operand cs = .done (binary op left right) [] := by
    have hlevels : levels = levels.take op.level.rank ++ levels.drop op.level.rank :=
      (List.take_append_drop _ _).symm
    rw [readerFrom, List.drop_zero, hlevels, List.foldr_append]
    exact foldr_joined_of_end hown _
  rw [formula_eq, hcs, hwhole]
  rfl

/-- Two texts in quotes with an operator between them. -/
theorem parse_joint {quote : Char} (hquote : quote ∈ quotes) (spelling : Spelling)
    (op : BinaryOperator) {cs ds text text' : List Char}
    (hleft : ∀ rest, quoted? quote (cs ++ quote :: rest) = some (text, rest))
    (hright : quoted? quote (ds ++ [quote]) = some (text', [])) :
    parse (.ofList (quote :: (cs ++ quote :: joint spelling op (quote :: (ds ++ [quote]))))) =
      .ok (binary op (literal (.text (.ofList text))) (literal (.text (.ofList text')))) := by
  have hspace := (not_blank_of_mem_quotes hquote).2
  have htrim : Chars.trim (quote :: (cs ++ quote :: joint spelling op (quote :: (ds ++ [quote])))) =
      quote :: (cs ++ quote :: joint spelling op (quote :: (ds ++ [quote]))) := by
    have h := trim_quoted hquote
      (cs ++ quote :: (' ' :: (spelling.binary op ++ ' ' :: quote :: ds)))
    simpa [joint] using h
  rw [parse_eq_ok_iff htrim]
  generalize (quote :: (cs ++ quote :: joint spelling op (quote :: (ds ++ [quote])))).length = fuel
  refine formula_joint spelling op (skipSpace_cons hspace _)
    (skipSpace_cons hspace (ds ++ [quote])) ?_ ?_
  · rw [operand_quoted hquote (hleft _), skipSpace_joint]
  · rw [operand_quoted hquote hright]
    rfl

/-- Two texts in quotes are compared as the texts that they stand for. -/
theorem holds_identical {quote : Char} (hquote : quote ∈ quotes) {cs ds text text' : List Char}
    (hleft : ∀ rest, quoted? quote (cs ++ quote :: rest) = some (text, rest))
    (hright : quoted? quote (ds ++ [quote]) = some (text', [])) :
    holds (.ofList
        (quote :: (cs ++ quote :: joint Spelling.words .identical (quote :: (ds ++ [quote]))))) =
      .ok (String.ofList text == String.ofList text') := by
  rw [holds, value, parse_joint hquote Spelling.words .identical hleft hright]
  rfl

/-! ## In double quotes -/

/-- A value as it stands between double quotes. -/
def doubleEscaped (cs : List Char) : List Char :=
  cs.flatMap fun c => if isEscaped c then ['\\', c] else [c]

theorem doubleQuoted_eq (value : String) :
    doubleQuoted value = .ofList ('"' :: (doubleEscaped value.toList ++ ['"'])) :=
  rfl

theorem quoted?_doubleEscaped (cs rest : List Char) :
    quoted? '"' (doubleEscaped cs ++ '"' :: rest) = some (cs, rest) :=
  quoted?_escaped cs rest

/-- **A value in double quotes is read back as it is**, whatever it consists of; and two of
them are identical exactly when the values are equal. -/
theorem doubleQuoted_read_back :
    (∀ v, parse (doubleQuoted v) = .ok (literal (.text v))) ∧
      ∀ v w, holds (doubleQuoted v ++ " === " ++ doubleQuoted w) = .ok (decide (v = w)) := by
  constructor
  · intro v
    rw [doubleQuoted_eq, parse_quoted_iff (by decide)]
    exact quoted?_doubleEscaped v.toList []
  · intro v w
    have htext : doubleQuoted v ++ " === " ++ doubleQuoted w =
        .ofList ('"' :: (doubleEscaped v.toList ++ '"' ::
          joint Spelling.words .identical ('"' :: (doubleEscaped w.toList ++ ['"'])))) := by
      rw [← String.toList_inj, doubleQuoted_eq, doubleQuoted_eq]
      simp [joint, Spelling.binary]
    rw [htext, holds_identical (by decide) (quoted?_doubleEscaped v.toList)
      (quoted?_doubleEscaped w.toList []), String.ofList_toList, String.ofList_toList]
    rfl

/-! ## In single quotes -/

/-- **What is read of a variable**: the value with each backslash standing for the
character behind it, as long as none sets a quote free. -/
theorem parse_singleQuoted_iff {value text : String} :
    parse (singleQuoted value) = .ok (literal (.text text)) ↔
      unescaped? value.toList = some text.toList := by
  rw [singleQuoted_eq, parse_quoted_iff (by decide)]
  constructor
  · exact unescaped?_of_quoted?
  · intro h
    exact quoted?_singleEscaped h []

/-! ## Variables -/

/-- **A variable is read back as its value exactly when the value has no backslash.**
With a backslash, what is read as a text at all is the value without it, or rather with
the character behind it. -/
theorem parse_variable {scope : Scope} {name value : String} (hname : Substitution.IsName name)
    (hvalue : scope.get? name = some value) :
    ∃ source, Substitution.strictQuoted scope ("$" ++ name) = .ok source ∧
      (parse source = .ok (literal (.text value)) ↔ '\\' ∉ value.toList) ∧
      ∀ text, parse source = .ok (literal (.text text)) ↔
        unescaped? value.toList = some text.toList := by
  refine ⟨singleQuoted value, Substitution.strictQuoted_variable hname hvalue, ?_, ?_⟩
  · rw [parse_singleQuoted_iff]
    exact unescaped?_eq_self_iff
  · intro text
    exact parse_singleQuoted_iff

/-- A name with a quote in it. -/
def surnameScope : Scope :=
  ⟨[("surname", "O'Hara")]⟩

theorem parse_variable_surname :
    Substitution.IsName "surname" ∧ surnameScope.get? "surname" = some "O'Hara" ∧
      ∃ source, Substitution.strictQuoted surnameScope ("$" ++ "surname") = .ok source ∧
        (parse source = .ok (literal (.text "O'Hara")) ↔ '\\' ∉ "O'Hara".toList) ∧
        ∀ text, parse source = .ok (literal (.text text)) ↔
          unescaped? "O'Hara".toList = some text.toList := by
  have hname : Substitution.IsName "surname" := ⟨by decide, List.all_eq_true.mp (by decide)⟩
  exact ⟨hname, rfl, parse_variable hname rfl⟩

/-- **Not every variable is read back as its value**: of a path with a backslash the
backslash is lost. -/
theorem not_parse_variable_of_backslash :
    ¬ ∀ (scope : Scope) (name value : String), Substitution.IsName name →
      scope.get? name = some value →
      ∃ source, Substitution.strictQuoted scope ("$" ++ name) = .ok source ∧
        parse source = .ok (literal (.text value)) := by
  intro h
  have hname : Substitution.IsName "path" := ⟨by decide, List.all_eq_true.mp (by decide)⟩
  have hvalue : (⟨[("path", "a\\b")]⟩ : Scope).get? "path" = some "a\\b" := rfl
  obtain ⟨source, hsource, hparse⟩ := h _ _ _ hname hvalue
  rw [Substitution.strictQuoted_variable hname hvalue] at hsource
  cases hsource
  rw [parse_singleQuoted_iff] at hparse
  revert hparse
  decide

end Lineage.Formula
