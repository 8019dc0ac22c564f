import Mathlib.Data.List.Infix
import Lineage.Proofs.Formula.Lexis
import Lineage.Proofs.Formula.Substitution
import Lineage.Proofs.Leveled.Search
import Lineage.Report.Walk

/-!
# Values of the record in variables

A value of the active record that is stored in a variable goes the way of a value that
stands in the template: what looks like a variable is replaced, what looks like a call
for localized text is answered, and what looks like arithmetic is evaluated. A value
that looks like none of these (`IsPlain`) is stored as it is.

> `assign_reference`: the first value of a tag is stored, or the empty text when there
> is none.

A date with two years looks like arithmetic and is no formula
(`not_assign_reference_of_dualYear`).
-/

namespace Lineage

/-! ## What looks like arithmetic -/

namespace Chars

/-- What comes behind the blanks at the start of a text. -/
theorem any_head?_trimStart_iff {p : Char → Bool} (hp : ∀ c, p c = true → isBlank c = false)
    {cs : List Char} :
    (trimStart cs).head?.any p = true ↔
      ∃ blanks c rest, cs = blanks ++ c :: rest ∧ (∀ b ∈ blanks, isBlank b = true) ∧
        p c = true := by
  constructor
  · intro h
    rw [Option.any_eq_true] at h
    obtain ⟨c, hc, hpc⟩ := h
    obtain ⟨rest, hrest⟩ := List.head?_eq_some_iff.mp hc
    refine ⟨cs.takeWhile isBlank, c, rest, ?_, fun b hb => List.mem_takeWhile_imp hb, hpc⟩
    rw [← hrest, trimStart, List.takeWhile_append_dropWhile]
  · rintro ⟨blanks, c, rest, rfl, hblanks, hpc⟩
    rw [trimStart, dropWhile_run hblanks (by rintro d ⟨⟩; exact hp c hpc)]
    exact hpc

/-- No digit is a blank. -/
theorem isBlank_eq_false_of_isDecimal {c : Char} (h : isDecimal c = true) : isBlank c = false := by
  by_contra hblank
  rw [Bool.not_eq_false] at hblank
  have hdigit := Formula.eq_false_of_isBlank (p := isDecimal) (by decide +kernel) hblank
  rw [h] at hdigit
  cases hdigit

end Chars

namespace Formula

/-- The operators of arithmetic. -/
def arithmeticOperators : List Char :=
  ['+', '-', '*', '/']

/-- Two digits with an operator of arithmetic, and perhaps blanks, between them. -/
def IsArithmetic (cs : List Char) : Prop :=
  ∃ d blanks op blanks' e, cs = d :: (blanks ++ op :: (blanks' ++ [e])) ∧
    Chars.isDecimal d = true ∧ op ∈ arithmeticOperators ∧ Chars.isDecimal e = true ∧
    (∀ b ∈ blanks, Chars.isBlank b = true) ∧ (∀ b ∈ blanks', Chars.isBlank b = true)

theorem isBlank_eq_false_of_mem_operators {op : Char} (h : op ∈ arithmeticOperators) :
    Chars.isBlank op = false := by
  by_contra hblank
  rw [Bool.not_eq_false] at hblank
  exact Chars.not_mem_of_holds hblank (by decide) h

theorem operatorAndDigit_iff {cs : List Char} :
    hasArithmetic.operatorAndDigit cs = true ↔
      ∃ op blanks e rest, cs = op :: (blanks ++ e :: rest) ∧ op ∈ arithmeticOperators ∧
        (∀ b ∈ blanks, Chars.isBlank b = true) ∧ Chars.isDecimal e = true := by
  cases cs with
  | nil => simp [hasArithmetic.operatorAndDigit]
  | cons c cs =>
    have hop : (c == '+' || c == '-' || c == '*' || c == '/') = true ↔
        c ∈ arithmeticOperators := by
      simp [arithmeticOperators, or_assoc]
    rw [hasArithmetic.operatorAndDigit, Bool.and_eq_true, hop,
      Chars.any_head?_trimStart_iff fun _ => Chars.isBlank_eq_false_of_isDecimal]
    constructor
    · rintro ⟨hc, blanks, e, rest, rfl, hblanks, he⟩
      exact ⟨c, blanks, e, rest, rfl, hc, hblanks, he⟩
    · rintro ⟨op, blanks, e, rest, heq, hop, hblanks, he⟩
      obtain ⟨rfl, rfl⟩ := List.cons.inj heq
      exact ⟨hop, blanks, e, rest, rfl, hblanks, he⟩

/-- Arithmetic at the start of a text. -/
theorem isArithmetic_prefix_iff {c : Char} {rest : List Char} :
    (∃ part, IsArithmetic part ∧ part <+: c :: rest) ↔
      Chars.isDecimal c = true ∧ hasArithmetic.operatorAndDigit (Chars.trimStart rest) = true := by
  rw [operatorAndDigit_iff]
  constructor
  · rintro ⟨_, ⟨d, blanks, op, blanks', e, rfl, hd, hop, he, hblanks, hblanks'⟩, more, hmore⟩
    obtain ⟨rfl, hrest⟩ := List.cons.inj hmore
    refine ⟨hd, op, blanks', e, more, ?_, hop, hblanks', he⟩
    have hbehind : rest = blanks ++ op :: (blanks' ++ e :: more) := by
      rw [← hrest]
      simp
    rw [hbehind, Chars.trimStart, Chars.dropWhile_run hblanks]
    rintro b ⟨⟩
    exact isBlank_eq_false_of_mem_operators hop
  · rintro ⟨hd, op, blanks, e, more, htrim, hop, hblanks, he⟩
    refine ⟨_, ⟨c, rest.takeWhile Chars.isBlank, op, blanks, e, rfl, hd, hop, he,
      fun b hb => List.mem_takeWhile_imp hb, hblanks⟩, more, ?_⟩
    have hrest := List.takeWhile_append_dropWhile (p := Chars.isBlank) (l := rest)
    rw [show rest.dropWhile Chars.isBlank = _ from htrim] at hrest
    simpa using hrest

/-- **Arithmetic is looked for anywhere in a text.** -/
theorem hasArithmetic_iff {cs : List Char} :
    hasArithmetic cs = true ↔ ∃ part, IsArithmetic part ∧ part <:+: cs := by
  induction cs with
  | nil =>
    refine ⟨nofun, ?_⟩
    rintro ⟨_, ⟨d, blanks, op, blanks', e, rfl, -⟩, hoccurs⟩
    exact absurd (List.infix_nil.mp hoccurs) (List.cons_ne_nil _ _)
  | cons c cs ih =>
    rw [hasArithmetic, Bool.or_eq_true, Bool.and_eq_true, ← isArithmetic_prefix_iff, ih,
      ← exists_or]
    refine exists_congr fun part => ?_
    rw [List.infix_cons_iff, and_or_left]

/-- A text that does not look like arithmetic is stored as it is, unless it has an at
sign in it. -/
theorem assigned_of_hasArithmetic_eq_false {source : String}
    (h : hasArithmetic source.toList = false) :
    assigned source = .ok (if source.toList.contains '@' then "" else source) := by
  rw [assigned, h]
  rfl

end Formula

/-! ## What looks like a call -/

/-- A text that does not start like a call for localized text is none. -/
theorem LocalizedCall.parse?_eq_none {value : String} (h : ¬ "I18N::".toList <+: value.toList) :
    parse? value = none := by
  have hbetween (first last : String) (hfirst : "I18N::".toList <+: first.toList) :
      between? first last value = none := by
    have hafter : Chars.after? first.toList value.toList = none := by
      rw [← Option.not_isSome_iff_eq_none, Chars.isSome_after?_iff]
      exact fun hcomes => h (hfirst.trans hcomes)
    rw [between?, hafter]
    rfl
  rw [parse?, hbetween _ _ ⟨_, rfl⟩, hbetween _ _ ⟨_, rfl⟩, hbetween _ _ ⟨_, rfl⟩]
  rfl

namespace Report

open Substitution

theorem Environment.localize_eq_self {env : Environment} {value : String}
    (h : ¬ "I18N::".toList <+: value.toList) : env.localize value = value := by
  rw [localize, LocalizedCall.parse?_eq_none h]

/-! ## References to the record -/

/-- The references that do not stand for a tag of the record. -/
def ownReferences : List String :=
  ["ID", "fact", "desc", "generation"]

theorem firstReference?_of_isName {tag : String} (h : IsName tag) :
    firstReference? ("@" ++ tag) = some tag := by
  have hchars : ("@" ++ tag).toList = '@' :: (tag.toList ++ []) := by
    simp
  rw [firstReference?, hchars, Piece.ofChars_name (by decide) h.nonempty h.word (by rintro c ⟨⟩)]
  exact congrArg some String.ofList_toList

/-- A tag stands for its first value in the record. -/
theorem Active.assignedValue_reference (active : Active) {tag : String} (h : IsName tag)
    (hown : tag ∉ ownReferences) :
    active.assignedValue ("@" ++ tag) =
      (Leveled.firstValue? tag active.text).getD ("@" ++ tag) := by
  have hne (own : String) (hmem : own ∈ ownReferences) : "@" ++ tag ≠ "@" ++ own := by
    intro heq
    have hchars := congrArg String.toList heq
    rw [String.toList_append, String.toList_append, List.append_cancel_left_eq,
      String.toList_inj] at hchars
    exact hown (hchars ▸ hmem)
  unfold assignedValue
  split
  next heq => exact absurd heq (hne "ID" (by decide))
  next heq => exact absurd heq (hne "fact" (by decide))
  next heq => exact absurd heq (hne "desc" (by decide))
  next heq => exact absurd heq (hne "generation" (by decide))
  next => rw [firstReference?_of_isName h]

/-- Whether a value has nothing in it that the template would take for something else. -/
structure IsPlain (value : String) : Prop where
  noVariable : IsVariableFree value
  noCall : ¬ "I18N::".toList <+: value.toList
  noArithmetic : ∀ part, Formula.IsArithmetic part → ¬ part <:+: value.toList

/-- A plain value comes through, except that one with an at sign becomes empty. -/
theorem assigned_of_isPlain (env : Environment) (scope : Scope) {value : String}
    (h : IsPlain value) :
    Formula.assigned (env.localize (lenient scope value)) =
      .ok (if value.toList.contains '@' then "" else value) := by
  rw [lenient_of_free scope h.noVariable, Environment.localize_eq_self h.noCall,
    Formula.assigned_of_hasArithmetic_eq_false]
  rw [← Bool.not_eq_true, Formula.hasArithmetic_iff]
  rintro ⟨part, hpart, hoccurs⟩
  exact h.noArithmetic part hpart hoccurs

/-- A reference that nothing was found for is plain. -/
theorem isPlain_reference {tag : String} (h : IsName tag) : IsPlain ("@" ++ tag) where
  noVariable c _ hoccurs := by
    have hmem : '$' ∈ ("@" ++ tag).toList := hoccurs.subset List.mem_cons_self
    rw [String.toList_append] at hmem
    rcases List.mem_append.mp hmem with hat | htag
    · cases List.mem_singleton.mp hat
    · exact absurd (h.word _ htag) (by decide)
  noCall hcomes := by
    rw [String.toList_append] at hcomes
    cases (List.cons_prefix_cons.mp hcomes).1
  noArithmetic := by
    rintro _ ⟨d, blanks, op, blanks', e, rfl, -, hop, -⟩ hoccurs
    have hmem : op ∈ ("@" ++ tag).toList := hoccurs.subset (by simp)
    rw [String.toList_append] at hmem
    rcases List.mem_append.mp hmem with hat | htag
    · rw [List.mem_singleton.mp hat] at hop
      revert hop
      decide
    · exact Chars.not_mem_of_holds (h.word _ htag) (by decide) hop

/-- What is found in a record has no at signs. -/
theorem not_mem_of_firstTagValue? {tag text value : String}
    (h : Leveled.firstTagValue? tag text = some value) : '@' ∉ value.toList := by
  obtain ⟨line, -, hline⟩ := List.exists_of_findSome?_eq_some h
  rw [Leveled.tagValue?, Option.map_eq_some_iff] at hline
  obtain ⟨cs, -, rfl⟩ := hline
  rw [Text.without, String.toList_ofList]
  intro hmem
  simpa using (List.mem_filter.mp hmem).2

/-- The variable that a value is stored in: the attribute may name one that holds the
name. -/
def assignedName (scope : Scope) (given : String) : String :=
  ((onlyVariable? given).bind scope.get?).getD given

/-- **Values of the record are stored as they are**: an assignment of a tag succeeds and
stores the value of the first line with the tag, or the empty text where no line has
it, if the tag stands at the starts of lines only and the value has nothing in it that
the template would take for something else. -/
theorem assign_reference {env : Environment} {attrs : Attributes} {location : Location}
    {s : State} {tag : String} (hname : IsName tag) (hown : tag ∉ ownReferences)
    (hvalue : attrs.getD "value" "" = "@" ++ tag)
    (hstarts : Leveled.StartsLines tag s.active.text)
    (hplain : ∀ value, Leveled.firstTagValue? tag s.active.text = some value → IsPlain value) :
    s.assign env attrs location =
      .ok { s with
        scope := s.scope.set (assignedName s.scope (attrs.getD "name" ""))
          ((Leveled.firstTagValue? tag s.active.text).getD "") } := by
  have hfeed : '\n' ∉ tag.toList := fun hmem => absurd (hname.word _ hmem) (by decide)
  have hstored : Formula.assigned (env.localize (lenient s.scope
      (s.active.assignedValue (attrs.getD "value" "")))) =
      .ok ((Leveled.firstTagValue? tag s.active.text).getD "") := by
    rw [hvalue, Active.assignedValue_reference _ hname hown, Leveled.firstValue?_eq hfeed hstarts]
    cases hfound : Leveled.firstTagValue? tag s.active.text with
    | none =>
      -- the reference is left, and its at sign makes it empty
      rw [Option.getD_none, assigned_of_isPlain env s.scope (isPlain_reference hname)]
      simp
    | some value =>
      have hat : value.toList.contains '@' = false := by
        simpa using not_mem_of_firstTagValue? hfound
      rw [Option.getD_some, assigned_of_isPlain env s.scope (hplain value hfound), hat]
      rfl
  unfold State.assign
  simp only [hstored]
  rfl

/-- A state in which a person with an occupation is active. -/
def clerkActive : State :=
  { active := { text := "0 @I1@ INDI\n1 NAME Ann /Lee/\n1 OCCU clerk" } }

theorem assign_reference_clerk :
    IsName "OCCU" ∧ "OCCU" ∉ ownReferences ∧
      Leveled.StartsLines "OCCU" clerkActive.active.text ∧ IsPlain "clerk" ∧
      clerkActive.assign {} ⟨[("name", "job"), ("value", "@" ++ "OCCU")]⟩ {} =
        .ok { clerkActive with scope := ⟨[("job", "clerk")]⟩ } := by
  have hname : IsName "OCCU" := ⟨by decide, List.all_eq_true.mp (by decide)⟩
  have hstarts : Leveled.StartsLines "OCCU" clerkActive.active.text := by decide +kernel
  have hfound : Leveled.firstTagValue? "OCCU" clerkActive.active.text = some "clerk" := by
    decide +kernel
  have hplain : IsPlain "clerk" :=
    { noVariable := fun c _ hoccurs => absurd (hoccurs.subset List.mem_cons_self) (by decide)
      noCall := fun hcomes => by cases (List.cons_prefix_cons.mp hcomes).1
      noArithmetic := fun part hpart hoccurs =>
        absurd (Formula.hasArithmetic_iff.mpr ⟨part, hpart, hoccurs⟩) (by decide) }
  have hassign := @assign_reference {} ⟨[("name", "job"), ("value", "@" ++ "OCCU")]⟩ {}
    clerkActive _ hname (by decide) rfl hstarts fun value hvalue => by
      rw [hfound] at hvalue
      cases hvalue
      exact hplain
  rw [hfound] at hassign
  exact ⟨hname, by decide, hstarts, hplain, hassign⟩

/-- A state in which a person is active whose date of birth has two years, one for each
start of the year that was in use. -/
def dualYearActive : State :=
  { active := { text := "0 @I1@ INDI\n1 BIRT\n2 DATE 1 JAN 1750/51" } }

/-- **Not all values of a record are stored**: a date with two years is taken for a
formula, which it is not, and the assignment fails. -/
theorem not_assign_reference_of_dualYear :
    ¬ ∀ (env : Environment) (attrs : Attributes) (location : Location) (s : State) (tag : String),
      IsName tag → tag ∉ ownReferences → attrs.getD "value" "" = "@" ++ tag →
      Leveled.StartsLines tag s.active.text →
      s.assign env attrs location =
        .ok { s with
          scope := s.scope.set (assignedName s.scope (attrs.getD "name" ""))
            ((Leveled.firstTagValue? tag s.active.text).getD "") } := by
  intro h
  have hname : IsName "DATE" := ⟨by decide, List.all_eq_true.mp (by decide)⟩
  have hclaim := h {} ⟨[("name", "born"), ("value", "@" ++ "DATE")]⟩ {} dualYearActive "DATE" hname
    (by decide) rfl (by decide +kernel)
  have hfails : (dualYearActive.assign {} ⟨[("name", "born"), ("value", "@" ++ "DATE")]⟩ {}).isOk =
      false := by
    decide +kernel
  rw [hclaim] at hfails
  cases hfails

end Report

end Lineage
