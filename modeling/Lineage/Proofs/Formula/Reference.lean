import Lineage.Formula.Reference
import Lineage.Proofs.Formula.Substitution

/-!
# Substitution by references

A text is cut into pieces from its end, and the references are found by their places.
Both views agree, by an induction that follows the reading from left to right
(`scan_induction`): a text is empty, starts with a character that stands for itself, or
starts with a reference.

> `strict_or_lenient`: the strict substitution fails with the leftmost variable that has no
> value, and gives what the lenient one gives if there is none. What is written for a
> reference is not read again.
-/

namespace Lineage.Substitution

/-! ## Reading from left to right -/

theorem IsReference.head {name behind : List Char} (hne : name ≠ [])
    (hword : ∀ c ∈ name, Chars.isWord c = true)
    (hends : ∀ c, behind.head? = some c → Chars.isWord c = false) :
    IsReference ('$' :: (name ++ behind)) [] name behind :=
  ⟨rfl, hne, hword, hends⟩

/-- **A text is read from left to right.** -/
@[elab_as_elim]
theorem scan_induction {motive : List Char → Prop} (nil : motive [])
    (char : ∀ c rest, (c = '$' → ∀ d, rest.head? = some d → Chars.isWord d = false) →
      motive rest → motive (c :: rest))
    (reference : ∀ name behind, IsReference ('$' :: (name ++ behind)) [] name behind →
      motive behind → motive ('$' :: (name ++ behind)))
    (cs : List Char) : motive cs := by
  -- on the length, since a name may be long
  induction hlength : cs.length using Nat.strong_induction_on generalizing cs with
  | _ n ih =>
    cases cs with
    | nil => exact nil
    | cons c rest =>
      rw [List.length_cons] at hlength
      by_cases hplain : c = '$' → ∀ d, rest.head? = some d → Chars.isWord d = false
      · exact char c rest hplain (ih rest.length (by omega) rest rfl)
      · -- the name is the run of word characters behind the dollar sign
        simp only [Classical.not_imp, not_forall] at hplain
        obtain ⟨rfl, d, hd, hword⟩ := hplain
        have hsplit : rest.takeWhile Chars.isWord ++ rest.dropWhile Chars.isWord = rest :=
          List.takeWhile_append_dropWhile
        have hne : rest.takeWhile Chars.isWord ≠ [] := by
          obtain ⟨tail, rfl⟩ := List.head?_eq_some_iff.mp hd
          rw [List.takeWhile_cons_of_pos (Bool.not_eq_false _ ▸ hword)]
          exact List.cons_ne_nil _ _
        have hends : ∀ c, (rest.dropWhile Chars.isWord).head? = some c →
            Chars.isWord c = false := by
          intro c hc
          have hhead := List.head?_dropWhile_not Chars.isWord rest
          rw [hc] at hhead
          exact hhead
        have hfirst := IsReference.head hne (fun c hc => List.mem_takeWhile_imp hc) hends
        have hshort : (rest.dropWhile Chars.isWord).length ≤ rest.length :=
          (List.dropWhile_suffix _).length_le
        rw [← hsplit]
        exact reference _ _ hfirst (ih _ (by omega) _ rfl)

/-! ## References by their places -/

/-- Behind a character that stands for itself the references are those of the rest. -/
theorem isReference_cons_iff {c : Char} {rest before name behind : List Char}
    (hplain : c = '$' → ∀ d, rest.head? = some d → Chars.isWord d = false) :
    IsReference (c :: rest) before name behind ↔
      ∃ front, before = c :: front ∧ IsReference rest front name behind := by
  constructor
  · rintro ⟨htext, hne, hword, hends⟩
    cases before with
    | nil =>
      -- the name would start where no word character comes first
      obtain ⟨d, ds, rfl⟩ := List.exists_cons_of_ne_nil hne
      obtain ⟨rfl, rfl⟩ := List.cons.inj htext
      have hstop := hplain rfl d rfl
      rw [hword d List.mem_cons_self] at hstop
      cases hstop
    | cons b front =>
      obtain ⟨rfl, rfl⟩ := List.cons.inj htext
      exact ⟨front, rfl, rfl, hne, hword, hends⟩
  · rintro ⟨front, rfl, htext, hne, hword, hends⟩
    exact ⟨by rw [htext]; rfl, hne, hword, hends⟩

/-- Where a reference comes first it is the only one there, and the others are those of the
text behind it. -/
theorem isReference_append_iff {first rest before name behind : List Char}
    (h : IsReference ('$' :: (first ++ rest)) [] first rest) :
    IsReference ('$' :: (first ++ rest)) before name behind ↔
      (before = [] ∧ name = first ∧ behind = rest) ∨
        ∃ front, before = '$' :: (first ++ front) ∧ IsReference rest front name behind := by
  constructor
  · rintro ⟨htext, hne, hword, hends⟩
    cases before with
    | nil =>
      have hsame : first ++ rest = name ++ behind := (List.cons.inj htext).2
      have hname : name = first := by
        rw [← Chars.takeWhile_run hword hends, ← hsame, Chars.takeWhile_run h.word h.ends]
      subst hname
      exact .inl ⟨rfl, rfl, (List.append_cancel_left hsame).symm⟩
    | cons b before =>
      obtain ⟨rfl, hsame⟩ := List.cons.inj htext
      -- no dollar sign is in the first name, so the other one is behind it
      have hdollar : '$' ∉ first := fun hc => absurd (h.word _ hc) (by decide)
      refine .inr ?_
      rcases List.append_eq_append_iff.mp hsame with ⟨front, rfl, hrest⟩ | ⟨tail, rfl, hrest⟩
      · exact ⟨front, rfl, hrest, hne, hword, hends⟩
      · cases tail with
        | nil => exact ⟨[], by simp, hrest.symm, hne, hword, hends⟩
        | cons d tail =>
          rw [← (List.cons.inj hrest).1] at hdollar
          exact absurd (by simp) hdollar
  · rintro (⟨rfl, rfl, rfl⟩ | ⟨front, rfl, htext, hne, hword, hends⟩)
    · exact h
    · exact ⟨by rw [htext]; simp, hne, hword, hends⟩

theorem not_isReference_nil {before name behind : List Char} :
    ¬ IsReference [] before name behind := by
  intro h
  simpa using h.text_eq

/-! ## The pieces of a text -/

/-- The pieces of a text, as characters. -/
theorem IsReference.ofChars_eq {cs name behind : List Char} (h : IsReference cs [] name behind) :
    Piece.ofChars '$' Chars.isWord cs =
      .name name :: Piece.ofChars '$' Chars.isWord behind := by
  rw [h.text_eq, List.nil_append, Piece.ofChars_name (by decide) h.nonempty h.word h.ends]

/-- **The names among the pieces are those that the text refers to.** -/
theorem mem_names_iff {cs : List Char} {n : String} :
    n ∈ Piece.names (Piece.ofChars '$' Chars.isWord cs) ↔
      ∃ before name behind, IsReference cs before name behind ∧ n = .ofList name := by
  induction cs using scan_induction with
  | nil =>
    refine iff_of_false List.not_mem_nil ?_
    rintro ⟨before, name, behind, h, -⟩
    exact not_isReference_nil h
  | char c rest hplain ih =>
    rw [Piece.ofChars_plain hplain, Piece.names_plain, ih]
    constructor
    · rintro ⟨before, name, behind, h, rfl⟩
      exact ⟨c :: before, name, behind, (isReference_cons_iff hplain).mpr ⟨_, rfl, h⟩, rfl⟩
    · rintro ⟨before, name, behind, h, rfl⟩
      obtain ⟨front, -, h⟩ := (isReference_cons_iff hplain).mp h
      exact ⟨front, name, behind, h, rfl⟩
  | reference first rest hfirst ih =>
    rw [hfirst.ofChars_eq, Piece.names_name, List.mem_cons, ih]
    constructor
    · rintro (rfl | ⟨before, name, behind, h, rfl⟩)
      · exact ⟨[], first, rest, hfirst, rfl⟩
      · exact ⟨_, name, behind, (isReference_append_iff hfirst).mpr (.inr ⟨before, rfl, h⟩), rfl⟩
    · rintro ⟨before, name, behind, h, rfl⟩
      rcases (isReference_append_iff hfirst).mp h with ⟨-, rfl, -⟩ | ⟨front, -, h⟩
      · exact .inl rfl
      · exact .inr ⟨front, name, behind, h, rfl⟩

/-- **The first name with a property is that of the leftmost reference with it.** -/
theorem find?_names_eq_some_iff {cs : List Char} {p : String → Bool} {n : String} :
    (Piece.names (Piece.ofChars '$' Chars.isWord cs)).find? p = some n ↔
      ∃ before name behind, IsReference cs before name behind ∧ p (.ofList name) = true ∧
        n = .ofList name ∧ ∀ before' name' behind', IsReference cs before' name' behind' →
          before'.length < before.length → p (.ofList name') = false := by
  induction cs using scan_induction with
  | nil =>
    refine iff_of_false (by rintro ⟨⟩) ?_
    rintro ⟨before, name, behind, h, -⟩
    exact not_isReference_nil h
  | char c rest hplain ih =>
    rw [Piece.ofChars_plain hplain, Piece.names_plain, ih]
    constructor
    · rintro ⟨before, name, behind, h, hp, rfl, hleft⟩
      refine ⟨c :: before, name, behind, (isReference_cons_iff hplain).mpr ⟨_, rfl, h⟩, hp, rfl, ?_⟩
      intro before' name' behind' h' hlt
      obtain ⟨front, rfl, hfront⟩ := (isReference_cons_iff hplain).mp h'
      exact hleft front name' behind' hfront (Nat.lt_of_succ_lt_succ hlt)
    · rintro ⟨before, name, behind, h, hp, rfl, hleft⟩
      obtain ⟨front, rfl, hfront⟩ := (isReference_cons_iff hplain).mp h
      refine ⟨front, name, behind, hfront, hp, rfl, fun before' name' behind' h' hlt => ?_⟩
      exact hleft (c :: before') name' behind' ((isReference_cons_iff hplain).mpr ⟨_, rfl, h'⟩)
        (Nat.succ_lt_succ hlt)
  | reference first rest hfirst ih =>
    rw [hfirst.ofChars_eq, Piece.names_name, List.find?_cons]
    cases hp : p (.ofList first) with
    | true =>
      -- the first reference is the one
      constructor
      · rintro ⟨⟩
        exact ⟨[], first, rest, hfirst, hp, rfl, fun _ _ _ _ hlt => absurd hlt (Nat.not_lt_zero _)⟩
      · rintro ⟨before, name, behind, h, -, rfl, hleft⟩
        rcases (isReference_append_iff hfirst).mp h with ⟨-, rfl, -⟩ | ⟨front, rfl, -⟩
        · rfl
        · have hnot := hleft [] first rest hfirst (Nat.zero_lt_succ _)
          rw [hp] at hnot
          cases hnot
    | false =>
      -- it is one of the others
      rw [ih]
      constructor
      · rintro ⟨before, name, behind, h, hname, rfl, hleft⟩
        refine ⟨'$' :: (first ++ before), name, behind,
          (isReference_append_iff hfirst).mpr (.inr ⟨before, rfl, h⟩), hname, rfl, ?_⟩
        intro before' name' behind' h' hlt
        rcases (isReference_append_iff hfirst).mp h' with ⟨-, rfl, -⟩ | ⟨front, rfl, hfront⟩
        · exact hp
        · refine hleft front name' behind' hfront ?_
          simpa using hlt
      · rintro ⟨before, name, behind, h, hname, rfl, hleft⟩
        rcases (isReference_append_iff hfirst).mp h with ⟨-, rfl, -⟩ | ⟨front, rfl, hfront⟩
        · rw [hp] at hname
          cases hname
        · refine ⟨front, name, behind, hfront, hname, rfl, fun before' name' behind' h' hlt => ?_⟩
          refine hleft ('$' :: (first ++ before')) name' behind'
            ((isReference_append_iff hfirst).mpr (.inr ⟨before', rfl, h'⟩)) ?_
          simpa using hlt

/-- **What is written for the pieces is what the text expands to**, and nothing else is. -/
theorem expands_iff {value : String → String} {cs out : List Char} :
    Expands value cs out ↔
      out = (Piece.fill value (Piece.ofChars '$' Chars.isWord cs)).toList := by
  constructor
  · intro h
    induction h with
    | nil => rfl
    | @char c rest out hplain _ ih =>
      rw [Piece.ofChars_plain hplain, Piece.fill_plain, String.toList_append,
        String.toList_singleton, ← ih]
      rfl
    | reference hfirst _ ih =>
      rw [hfirst.ofChars_eq, Piece.fill_name, String.toList_append, ← ih]
  · rintro rfl
    induction cs using scan_induction with
    | nil => exact .nil
    | char c rest hplain ih =>
      rw [Piece.ofChars_plain hplain, Piece.fill_plain, String.toList_append,
        String.toList_singleton]
      exact .char hplain ih
    | reference first rest hfirst ih =>
      rw [hfirst.ofChars_eq, Piece.fill_name, String.toList_append]
      exact .reference hfirst ih

/-! ## The strict and the lenient substitution -/

theorem allKnown_iff {scope : Scope} {s : String} :
    AllKnown scope s.toList ↔
      (Piece.names (variablePieces s)).find? (fun name => !scope.contains name) = none := by
  rw [List.find?_eq_none]
  constructor
  · intro h n hn
    obtain ⟨before, name, behind, hreference, rfl⟩ := mem_names_iff.mp hn
    simpa using h before name behind hreference
  · intro h before name behind hreference
    simpa using h _ (mem_names_iff.mpr ⟨before, name, behind, hreference, rfl⟩)

theorem exists_isFirstUnknown_iff {scope : Scope} {s n : String} :
    (∃ name, IsFirstUnknown scope s.toList name ∧ n = .ofList name) ↔
      (Piece.names (variablePieces s)).find? (fun name => !scope.contains name) = some n := by
  rw [variablePieces, find?_names_eq_some_iff]
  simp only [Bool.not_eq_true', Bool.not_eq_false', IsFirstUnknown]
  constructor
  · rintro ⟨name, ⟨before, behind, h, hunknown, hleft⟩, rfl⟩
    exact ⟨before, name, behind, h, hunknown, rfl, hleft⟩
  · rintro ⟨before, name, behind, h, hunknown, rfl, hleft⟩
    exact ⟨name, ⟨before, behind, h, hunknown, hleft⟩, rfl⟩

theorem strict_eq_ok_iff {scope : Scope} {s out : String} :
    strict scope s = .ok out ↔ AllKnown scope s.toList ∧ out = lenient scope s := by
  rw [allKnown_iff, strict]
  cases (Piece.names (variablePieces s)).find? fun name => !scope.contains name with
  | some n => simp
  | none => simp [lenient, eq_comm]

/-- **The strict substitution fails with the leftmost variable that has no value.** -/
theorem strict_eq_error_iff {scope : Scope} {s : String} {error : FormulaError} :
    strict scope s = .error error ↔
      ∃ name, IsFirstUnknown scope s.toList name ∧ error = .undefinedVariable (.ofList name) := by
  have hfind : strict scope s = .error error ↔
      ∃ n, (Piece.names (variablePieces s)).find? (fun name => !scope.contains name) = some n ∧
        error = .undefinedVariable n := by
    rw [strict]
    cases (Piece.names (variablePieces s)).find? fun name => !scope.contains name with
    | some n => simp [eq_comm]
    | none => simp
  rw [hfind]
  constructor
  · rintro ⟨n, hn, rfl⟩
    obtain ⟨name, hname, rfl⟩ := exists_isFirstUnknown_iff.mpr hn
    exact ⟨name, hname, rfl⟩
  · rintro ⟨name, hname, rfl⟩
    exact ⟨_, exists_isFirstUnknown_iff.mp ⟨name, hname, rfl⟩, rfl⟩

theorem strictQuoted_eq_ok_iff {scope : Scope} {s out : String} :
    strictQuoted scope s = .ok out ↔ AllKnown scope s.toList ∧
      Expands (fun name => Formula.singleQuoted (valueOf scope name)) s.toList out.toList := by
  rw [allKnown_iff, expands_iff, String.toList_inj, strictQuoted]
  cases (Piece.names (variablePieces s)).find? fun name => !scope.contains name with
  | some n => simp
  | none => simp [variablePieces, valueOf, eq_comm]

/-- With and without quotes the failures are the same. -/
theorem strictQuoted_eq_error_iff {scope : Scope} {s : String} {error : FormulaError} :
    strictQuoted scope s = .error error ↔ strict scope s = .error error := by
  rw [strict, strictQuoted]
  cases (Piece.names (variablePieces s)).find? fun name => !scope.contains name with
  | some n => rfl
  | none => simp

/-- **The strict and the lenient substitution differ only on variables without values.** The
strict one succeeds exactly if there are none in the text, with what the lenient one gives,
and else fails with the leftmost one; quotes change what is written for a variable and nothing
else. Either result is the text as it is, read from left to right, with something written
for each reference, which is not read. -/
theorem strict_or_lenient (scope : Scope) (s : String) :
    ((∃ out, strict scope s = .ok out) ↔ AllKnown scope s.toList) ∧
      (∀ out, strict scope s = .ok out → out = lenient scope s) ∧
      (∀ error, strict scope s = .error error ↔
        ∃ name, IsFirstUnknown scope s.toList name ∧
          error = .undefinedVariable (.ofList name)) ∧
      (∀ error, strictQuoted scope s = .error error ↔ strict scope s = .error error) ∧
      (∀ out, strictQuoted scope s = .ok out ↔ AllKnown scope s.toList ∧
        Expands (fun name => Formula.singleQuoted (valueOf scope name)) s.toList out.toList) ∧
      ∀ out, lenient scope s = out ↔ Expands (valueOf scope) s.toList out.toList := by
  refine ⟨?_, fun out h => (strict_eq_ok_iff.mp h).2, fun _ => strict_eq_error_iff,
    fun _ => strictQuoted_eq_error_iff, fun _ => strictQuoted_eq_ok_iff, fun out => ?_⟩
  · constructor
    · rintro ⟨out, h⟩
      exact (strict_eq_ok_iff.mp h).1
    · intro h
      exact ⟨_, strict_eq_ok_iff.mpr ⟨h, rfl⟩⟩
  · rw [expands_iff, String.toList_inj, eq_comm]
    rfl

end Lineage.Substitution
