import Lineage.Proofs.Formula.Quoted
import Lineage.Proofs.Walk.Refinement

/-!
# Conditions on the values of variables

The values of variables come into a condition as literals, before it is gone over for
the words that stand for signs and for references behind at signs. So both are taken
for what they stand for in a value too. A value with neither of them, and with nothing
that has a meaning between quotes, is compared as it is.

> `walk_if_identical`: whether the body of an `if` block on two variables is carried
> out depends on their values alone, with the signs put in for the words in them.
-/

namespace Lineage

namespace Attributes

theorem get?_resolve (attrs : Attributes) (scope : Scope) (name : String) :
    (attrs.resolve scope).get? name = (attrs.get? name).map (resolveValue scope) := by
  unfold get? resolve
  induction attrs.entries with
  | nil => rfl
  | cons entry rest ih =>
    rw [List.map_cons, List.lookup_cons, List.lookup_cons]
    cases name == entry.1 with
    | true => rfl
    | false => exact ih

/-- An attribute that is more than a variable is left as it is. -/
theorem getD_resolve {attrs : Attributes} {name default value : String} (scope : Scope)
    (h : attrs.getD name default = value) (hdefault : value ≠ default)
    (hvalue : Substitution.onlyVariable? value = none) :
    (attrs.resolve scope).getD name default = value := by
  rw [getD, get?_resolve]
  cases hget : attrs.get? name with
  | none =>
    rw [getD, hget] at h
    exact absurd h.symm hdefault
  | some found =>
    rw [getD, hget] at h
    rw [Option.map_some, Option.getD_some, show found = value from h, resolveValue, hvalue]
    rfl

end Attributes

namespace Report

open Formula Substitution
open Template (Head Node)

/-! ## The condition that two variables have the same value -/

/-- The pieces of the condition. -/
theorem variablePieces_identical {x y : String} (hx : IsName x) (hy : IsName y) :
    variablePieces ("$" ++ x ++ " === $" ++ y) =
      .name x.toList :: (" === ".toList.map .plain ++ [.name y.toList]) := by
  have hrest : variablePieces (" === $" ++ y) =
      " === ".toList.map .plain ++ variablePieces ("$" ++ y ++ "") := by
    have htext : (" === $" ++ y).toList = " === ".toList ++ ("$" ++ y ++ "").toList := by
      simp
    rw [variablePieces, htext, Piece.ofChars_append (by decide)]
    rfl
  have hassoc : "$" ++ x ++ " === $" ++ y = "$" ++ x ++ (" === $" ++ y) :=
    String.append_assoc
  rw [hassoc, variablePieces_name hx, hrest, variablePieces_name hy]
  · rfl
  · simp
  · intro c hc
    rw [String.toList_append] at hc
    cases hc
    decide

/-- A formula that compares two texts in single quotes, which are written as they are. -/
def identicalTexts (v w : List Char) : List Char :=
  '\'' :: (v ++ '\'' :: (" === ".toList ++ '\'' :: (w ++ ['\''])))

/-- The condition with the values in it. -/
theorem strictQuoted_identical {scope : Scope} {x y v w : String} (hx : IsName x) (hy : IsName y)
    (hv : scope.get? x = some v) (hw : scope.get? y = some w) (hquote : '\'' ∉ v.toList)
    (hquote' : '\'' ∉ w.toList) :
    strictQuoted scope ("$" ++ x ++ " === $" ++ y) =
      .ok (.ofList (identicalTexts v.toList w.toList)) := by
  rw [strictQuoted_eq, variablePieces_identical hx hy, Piece.fill_name, Piece.fill_append,
    Piece.fill_name]
  · simp only [String.ofList_toList, hv, hw, Option.getD_some, singleQuoted_eq,
      singleEscaped_of_not_mem hquote, singleEscaped_of_not_mem hquote']
    rw [identicalTexts, Except.ok.injEq, ← String.toList_inj]
    simp [Piece.fill, String.join]
  · rw [variablePieces_identical hx hy]
    intro name hname
    have hnames : name = x ∨ name = y := by
      simpa [Piece.names, List.filterMap_cons] using hname
    rcases hnames with rfl | rfl
    · exact ⟨v, hv⟩
    · exact ⟨w, hw⟩

/-- What is replaced in the formula is replaced in the texts that are compared. -/
theorem replace_identicalTexts {needle : List Char} (new : List Char) (hquote : '\'' ∉ needle)
    (hsign : Chars.replace needle new " === ".toList = " === ".toList) (v w : List Char) :
    Chars.replace needle new (identicalTexts v w) =
      identicalTexts (Chars.replace needle new v) (Chars.replace needle new w) := by
  have hnil : Chars.replace needle new [] = [] := by
    cases needle <;> rfl
  unfold identicalTexts
  rw [← List.nil_append ('\'' :: _), Chars.replace_append_cons new hquote,
    Chars.replace_append_cons new hquote, Chars.replace_append_cons new hquote,
    Chars.replace_append_cons new hquote, hsign, hnil, List.nil_append]

/-- What occurs in the formula occurs in one of the texts or between them. -/
theorem infix_of_identicalTexts {needle v w : List Char} (hquote : '\'' ∉ needle)
    (h : needle <:+: identicalTexts v w) :
    needle <:+: v ∨ needle <:+: " === ".toList ∨ needle <:+: w := by
  have hnil (cs : List Char) (h : needle <:+: []) : needle <:+: cs :=
    h.trans List.nil_infix
  have hopens : needle <:+: [] ++ '\'' :: _ := h
  rcases Chars.infix_of_append_cons hquote hopens with h | h
  · exact .inl (hnil v h)
  rcases Chars.infix_of_append_cons hquote h with h | h
  · exact .inl h
  rcases Chars.infix_of_append_cons hquote h with h | h
  · exact .inr (.inl h)
  rcases Chars.infix_of_append_cons hquote h with h | h
  · exact .inr (.inr h)
  · exact .inl (hnil v h)

/-- A text without quotes and backslashes is read as it is. -/
theorem quoted?_self {cs : List Char} (hquote : '\'' ∉ cs) (hbackslash : '\\' ∉ cs)
    (rest : List Char) : quoted? '\'' (cs ++ '\'' :: rest) = some (cs, rest) := by
  have h := quoted?_singleEscaped (unescaped?_of_not_mem hbackslash) rest
  rwa [singleEscaped_of_not_mem hquote] at h

theorem holds_identicalTexts {v w : List Char} (hv : '\'' ∉ v ∧ '\\' ∉ v)
    (hw : '\'' ∉ w ∧ '\\' ∉ w) :
    holds (.ofList (identicalTexts v w)) = .ok (String.ofList v == String.ofList w) :=
  holds_identical (by decide) (quoted?_self hv.1 hv.2) (quoted?_self hw.1 hw.2 [])

/-! ## What is made of the values -/

/-- A value with the signs in it that words in it stand for. -/
def withSigns (value : String) : String :=
  Text.replace " GT " ">" (Text.replace " LT " "<" value)

/-- A value that no word in it stands for a sign in stays as it is. -/
theorem withSigns_eq_self {value : String}
    (h : ∀ word ∈ [" LT ", " GT "], ¬ word.toList <:+: value.toList) : withSigns value = value := by
  rw [withSigns, Text.replace_of_not_isInfix "<" (h " LT " List.mem_cons_self),
    Text.replace_of_not_isInfix ">" (h " GT " (List.mem_cons_of_mem _ List.mem_cons_self))]

/-- Whether a value has nothing in it that means something else in a literal, and no
reference. -/
structure IsLiteral (value : String) : Prop where
  noQuote : '\'' ∉ value.toList
  noBackslash : '\\' ∉ value.toList
  noToken : IsTokenFree value

/-- A sign in the place of a word leaves a value without such things. -/
theorem IsLiteral.replace {value word : String} (h : IsLiteral value) {sign : String}
    (hsign : sign ∈ ["<", ">"]) : IsLiteral (Text.replace word sign value) := by
  have hother : sign.toList ≠ [] ∧ ∀ c ∈ sign.toList, c ≠ '\'' ∧ c ≠ '\\' ∧ c ≠ '@' ∧
      isTokenChar c = false := by
    rcases List.mem_pair.mp hsign with rfl | rfl
    · exact ⟨by decide, by simp; decide⟩
    · exact ⟨by decide, by simp; decide⟩
  have hmem {c : Char} (hc : c ∈ (Text.replace word sign value).toList) :
      c ∈ value.toList ∨ c ∈ sign.toList := by
    rw [Text.replace, String.toList_ofList] at hc
    exact Chars.mem_of_mem_replace hc
  refine ⟨fun hc => ?_, fun hc => ?_, fun c hc hoccurs => ?_⟩
  · exact (hmem hc).elim h.noQuote fun hsign => (hother.2 _ hsign).1 rfl
  · exact (hmem hc).elim h.noBackslash fun hsign => (hother.2 _ hsign).2.1 rfl
  · rw [Text.replace, String.toList_ofList] at hoccurs
    refine h.noToken c hc (Chars.pair_infix_of_replace hother.1 ?_ ?_ hoccurs)
    · exact fun hmem => (hother.2 _ hmem).2.2.1 rfl
    · intro hmem
      rw [(hother.2 _ hmem).2.2.2] at hc
      cases hc

theorem IsLiteral.withSigns {value : String} (h : IsLiteral value) :
    IsLiteral (withSigns value) :=
  (h.replace (by decide)).replace (by decide)

/-- **Two variables are compared by their values**, with the signs in them. -/
theorem conditionHolds_identical (env : Environment) {s : State} {x y v w : String}
    (hx : IsName x) (hy : IsName y) (hv : s.scope.get? x = some v)
    (hw : s.scope.get? y = some w) (hvalue : IsLiteral v) (hvalue' : IsLiteral w) :
    conditionHolds env s ("$" ++ x ++ " === $" ++ y) = .ok (withSigns v == withSigns w) := by
  -- the words are looked for in the literals too, but not across their quotes
  have hsigns : Text.replace " GT " ">" (Text.replace " LT " "<"
      (.ofList (identicalTexts v.toList w.toList))) =
      .ofList (identicalTexts (withSigns v).toList (withSigns w).toList) := by
    simp only [withSigns, Text.replace, String.toList_ofList]
    rw [replace_identicalTexts _ (by decide) (by decide),
      replace_identicalTexts _ (by decide) (by decide)]
  -- and after that there is nothing left that refers to the record
  have hfree :
      IsTokenFree (.ofList (identicalTexts (withSigns v).toList (withSigns w).toList)) := by
    intro c hc hoccurs
    rw [String.toList_ofList] at hoccurs
    have hquote : '\'' ∉ ['@', c] := by
      have hne : c ≠ '\'' := Chars.ne_of_holds hc (by decide)
      simpa using hne.symm
    rcases infix_of_identicalTexts hquote hoccurs with h | h | h
    · exact hvalue.withSigns.noToken c hc h
    · exact absurd (h.subset List.mem_cons_self) (by decide)
    · exact hvalue'.withSigns.noToken c hc h
  have hfact (fact : String) : Text.replace "@fact:" fact
      (.ofList (identicalTexts (withSigns v).toList (withSigns w).toList)) =
      .ofList (identicalTexts (withSigns v).toList (withSigns w).toList) := by
    refine Text.replace_of_not_isInfix _ fun hoccurs => hfree 'f' (by decide) ?_
    exact List.IsInfix.trans ⟨[], "act:".toList, rfl⟩ hoccurs
  rw [conditionHolds, strictQuoted_identical hx hy hv hw hvalue.noQuote hvalue'.noQuote]
  simp only [bind, Except.bind]
  rw [hsigns, hfact, tokens_of_free _ hfree,
    holds_identicalTexts ⟨hvalue.withSigns.noQuote, hvalue.withSigns.noBackslash⟩
      ⟨hvalue'.withSigns.noQuote, hvalue'.withSigns.noBackslash⟩, String.ofList_toList,
    String.ofList_toList]

/-! ## The block -/

/-- An `if` block whose condition is read carries out its content or does nothing. -/
theorem walk_ifTag {env : Environment} {s : State} {head : Head} (children : List Node)
    {holds : Bool} (htag : head.tag = .ifTag) (hs : s.suppression.isClear = true)
    (h : conditionHolds env s ((head.attributes.resolve s.scope).getD "condition" "") =
      .ok holds) :
    walk env (.element head children) s = if holds then walkAll env children s else .ok s := by
  have hallows := Suppression.allows_of_isClear hs head.tag
  have hstart := startElement_ifTag htag hs h
  rw [walk_element]
  cases holds with
  | false =>
    have hskip : startElement env head s = .ok (s.skip head.tag) := by
      rw [hstart, htag]
      rfl
    exact carryOut_of_skip (by rw [htag]; rfl) (by rw [htag]; nofun) hallows hskip
      fun t ht => walkAll_inert env children ht
  | true =>
    rw [carryOut, enter_of_allows hallows, hstart, Outcome.ok_bind]
    change (walkAll env children s >>= _) = walkAll env children s
    cases hbody : walkAll env children s with
    | error failure => rfl
    | ok t =>
      -- the content has left the counters as they were, so there is nothing to count down
      have ht := (realizes_walkAll env children).isClear hbody hs
      rw [Outcome.ok_bind, leave_of_allows (Suppression.allows_of_isClear ht _), endElement, htag]
      exact congrArg Except.ok (State.endCondition_of_isClear ht)

/-- The attribute with the condition on two variables is no variable itself. -/
theorem getD_resolve_identical {attrs : Attributes} {x y : String} (hx : IsName x) (hy : IsName y)
    (h : attrs.getD "condition" "" = "$" ++ x ++ " === $" ++ y) (scope : Scope) :
    (attrs.resolve scope).getD "condition" "" = "$" ++ x ++ " === $" ++ y := by
  refine Attributes.getD_resolve scope h (fun hnil => ?_) ?_
  · have hchars := congrArg String.toList hnil
    simp at hchars
  · rw [onlyVariable?, variablePieces_identical hx hy]
    rfl

/-- **Conditions compare values**: an `if` block on two variables never fails by itself,
and it carries out its content exactly when the values are the same with the signs in
them that words stand for. So it compares the values as they are where they have no
such words. -/
theorem walk_if_identical {env : Environment} {s : State} {head : Head} {children : List Node}
    {x y v w : String} (htag : head.tag = .ifTag)
    (hcondition : head.attributes.getD "condition" "" = "$" ++ x ++ " === $" ++ y)
    (hs : s.suppression.isClear = true) (hx : IsName x) (hy : IsName y)
    (hv : s.scope.get? x = some v) (hw : s.scope.get? y = some w) (hvalue : IsLiteral v)
    (hvalue' : IsLiteral w) :
    (walk env (.element head children) s =
      if withSigns v = withSigns w then walkAll env children s else .ok s) ∧
    ((∀ word ∈ [" LT ", " GT "], ¬ word.toList <:+: v.toList ∧ ¬ word.toList <:+: w.toList) →
      walk env (.element head children) s =
        if v = w then walkAll env children s else .ok s) := by
  have hwalk : walk env (.element head children) s =
      if withSigns v = withSigns w then walkAll env children s else .ok s := by
    rw [walk_ifTag children htag hs (by
      rw [getD_resolve_identical hx hy hcondition, conditionHolds_identical env hx hy hv hw hvalue
        hvalue'])]
    simp only [beq_iff_eq]
  refine ⟨hwalk, fun hwords => ?_⟩
  rw [hwalk, withSigns_eq_self fun word hword => (hwords word hword).1,
    withSigns_eq_self fun word hword => (hwords word hword).2]

/-- An `if` block on the two variables `x` and `y`. -/
def sameBlock (children : List Node) : Node :=
  .element ⟨.ifTag, "if", ⟨[("condition", "$" ++ "x" ++ " === $" ++ "y")]⟩, {}⟩ children

/-- A state with the two variables. -/
def twoValues (v w : String) : State :=
  { scope := ⟨[("x", v), ("y", w)]⟩ }

theorem isName_x : IsName "x" :=
  ⟨by decide, List.all_eq_true.mp (by decide)⟩

theorem isName_y : IsName "y" :=
  ⟨by decide, List.all_eq_true.mp (by decide)⟩

theorem isLiteral_of_not_mem {s : String}
    (h : '\'' ∉ s.toList ∧ '\\' ∉ s.toList ∧ '@' ∉ s.toList) : IsLiteral s where
  noQuote := h.1
  noBackslash := h.2.1
  noToken _ _ hoccurs := h.2.2 (hoccurs.subset List.mem_cons_self)

theorem get?_twoValues (v w : String) :
    (twoValues v w).scope.get? "x" = some v ∧ (twoValues v w).scope.get? "y" = some w :=
  ⟨rfl, rfl⟩

/-- Two places that differ are told apart, and the block is skipped. -/
theorem walk_if_identical_places :
    IsName "x" ∧ IsName "y" ∧ IsLiteral "Bad Ems" ∧ IsLiteral "Ems" ∧
      walk {} (sameBlock [.text "same place"]) (twoValues "Bad Ems" "Ems") =
        .ok (twoValues "Bad Ems" "Ems") := by
  have hv : IsLiteral "Bad Ems" := isLiteral_of_not_mem (by decide)
  have hw : IsLiteral "Ems" := isLiteral_of_not_mem (by decide)
  have hwords : ∀ word ∈ [" LT ", " GT "],
      ¬ word.toList <:+: "Bad Ems".toList ∧ ¬ word.toList <:+: "Ems".toList := by
    intro word hword
    have hletter : 'T' ∈ word.toList := by
      rcases List.mem_pair.mp hword with rfl | rfl <;> decide
    exact ⟨fun h => absurd (h.subset hletter) (by decide),
      fun h => absurd (h.subset hletter) (by decide)⟩
  obtain ⟨hx, hy⟩ := get?_twoValues "Bad Ems" "Ems"
  have hwalk := (@walk_if_identical {} (twoValues "Bad Ems" "Ems")
    ⟨.ifTag, "if", ⟨[("condition", "$" ++ "x" ++ " === $" ++ "y")]⟩, {}⟩ [.text "same place"]
    _ _ _ _ rfl rfl rfl isName_x isName_y hx hy hv hw).2 hwords
  rw [if_neg (by decide)] at hwalk
  exact ⟨isName_x, isName_y, hv, hw, hwalk⟩

/-- **Not all values are compared as they are**: ` LT ` in a value makes it the same as
another one with the sign in its place. -/
theorem not_walk_if_identical_of_word :
    ¬ ∀ (env : Environment) (v w : String) (children : List Node),
      (∀ c ∈ ['\'', '"', '\\'], c ∉ v.toList ∧ c ∉ w.toList) →
        walk env (sameBlock children) (twoValues v w) =
          if v = w then walkAll env children (twoValues v w) else .ok (twoValues v w) := by
  intro h
  have hv : IsLiteral "a LT b" := isLiteral_of_not_mem (by decide)
  have hw : IsLiteral "a<b" := isLiteral_of_not_mem (by decide)
  obtain ⟨hx, hy⟩ := get?_twoValues "a LT b" "a<b"
  have hholds := conditionHolds_identical {} isName_x isName_y hx hy hv hw
  have hsame : (withSigns "a LT b" == withSigns "a<b") = true := by decide
  rw [hsame] at hholds
  -- the content, which puts what follows into the body, is carried out for unequal values
  let content : List Node := [.element ⟨.body, "Body", {}, {}⟩ []]
  have hwalk : walk {} (sameBlock content) (twoValues "a LT b" "a<b") =
      walkAll {} content (twoValues "a LT b" "a<b") :=
    walk_ifTag content rfl rfl
      ((congrArg _ (getD_resolve_identical isName_x isName_y rfl _)).trans hholds)
  have hplace : walkAll {} content (twoValues "a LT b" "a<b") =
      .ok { twoValues "a LT b" "a<b" with place := .body } := by
    rw [walkAll_element, carryOut, enter_of_allows rfl]
    simp only [startElement, Outcome.ok_bind, walkAll_nil]
    rfl
  have hplain : ∀ c ∈ ['\'', '"', '\\'], c ∉ "a LT b".toList ∧ c ∉ "a<b".toList := by
    intro c hc
    simp only [List.mem_cons, List.not_mem_nil, or_false] at hc
    rcases hc with rfl | rfl | rfl <;> exact ⟨by decide, by decide⟩
  have hclaim := h {} "a LT b" "a<b" content hplain
  rw [hwalk, hplace, if_neg (by decide)] at hclaim
  cases congrArg State.place (Except.ok.inj hclaim)

end Report

end Lineage
