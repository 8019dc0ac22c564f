import Mathlib.Data.List.Basic
import Mathlib.Data.List.TakeWhile
import Lineage.Text.Split

/-!
# Pieces of a text

What follows a text that comes first, where a run of characters stops, the pieces
between separators, and the words of a line: a word goes up to the first blank, so
that a line can be taken apart in one way only (`Chars.append_inj_of_isWord`). What
does not occur in a text is not replaced in it, and it does not occur across a
character that it does not have (`Chars.infix_of_append_cons`).
-/

namespace Lineage

namespace Chars

/-- **What comes first is cut off**, and nothing else is. -/
theorem after?_eq_some_iff {first cs rest : List Char} :
    after? first cs = some rest ↔ cs = first ++ rest := by
  induction first generalizing cs with
  | nil => simp [after?, eq_comm]
  | cons p ps ih =>
    cases cs with
    | nil => simp [after?]
    | cons c cs =>
      rw [after?, List.cons_append, List.cons.injEq]
      by_cases hp : p = c
      · rw [if_pos hp, ih]
        exact ⟨fun h => ⟨hp.symm, h⟩, And.right⟩
      · rw [if_neg hp]
        exact ⟨nofun, fun h => absurd h.1.symm hp⟩

/-- A single character is cut off where it comes last. -/
theorem before?_singleton (sign : Char) (cs : List Char) :
    before? [sign] cs = if cs.getLast? = some sign then some cs.dropLast else none := by
  rcases List.eq_nil_or_concat cs with rfl | ⟨before, last, rfl⟩
  · rfl
  · rw [before?, List.reverse_singleton, List.concat_eq_append, List.reverse_append,
      List.getLast?_append, List.dropLast_concat]
    by_cases h : sign = last
    · simp [after?, h]
    · simp [after?, h, Ne.symm h]

/-- A text is cut where the separator comes first. -/
theorem cut?_eq_some_iff {sep : Char} {cs before after : List Char} :
    cut? sep cs = some (before, after) ↔ cs = before ++ sep :: after ∧ sep ∉ before := by
  induction cs generalizing before with
  | nil => simp [cut?]
  | cons c rest ih =>
    rw [cut?]
    by_cases hc : c = sep
    · subst hc
      rw [if_pos rfl]
      constructor
      · rintro ⟨⟩
        exact ⟨rfl, List.not_mem_nil⟩
      · rintro ⟨heq, hbefore⟩
        cases before with
        | nil => rw [(List.cons.inj heq).2]
        | cons d ds =>
          rw [List.cons_append, List.cons.injEq] at heq
          exact absurd (heq.1 ▸ List.mem_cons_self) hbefore
    · rw [if_neg hc, Option.map_eq_some_iff]
      constructor
      · rintro ⟨⟨ds, tail⟩, hcut, ⟨⟩⟩
        obtain ⟨rfl, hds⟩ := ih.mp hcut
        exact ⟨rfl, List.not_mem_cons_of_ne_of_not_mem (Ne.symm hc) hds⟩
      · rintro ⟨heq, hbefore⟩
        cases before with
        | nil => exact absurd (List.cons.inj heq).1 hc
        | cons d ds =>
          rw [List.cons_append, List.cons.injEq] at heq
          obtain ⟨rfl, rfl⟩ := heq
          rw [List.mem_cons, not_or] at hbefore
          exact ⟨(ds, after), ih.mpr ⟨rfl, hbefore.2⟩, rfl⟩

theorem cut?_append {sep : Char} {cs : List Char} (h : sep ∉ cs) (rest : List Char) :
    cut? sep (cs ++ sep :: rest) = some (cs, rest) :=
  cut?_eq_some_iff.mpr ⟨rfl, h⟩

/-! ## Letters and digits by their codes -/

theorem isUpper_iff {c : Char} : c.isUpper = true ↔ 65 ≤ c.toNat ∧ c.toNat ≤ 90 :=
  decide_eq_true_iff

theorem isLower_iff {c : Char} : c.isLower = true ↔ 97 ≤ c.toNat ∧ c.toNat ≤ 122 :=
  (Bool.and_eq_true _ _).to_iff.trans (and_congr decide_eq_true_iff decide_eq_true_iff)

theorem isDigit_iff {c : Char} : c.isDigit = true ↔ 48 ≤ c.toNat ∧ c.toNat ≤ 57 :=
  (Bool.and_eq_true _ _).to_iff.trans (and_congr decide_eq_true_iff decide_eq_true_iff)

theorem isAlpha_iff {c : Char} : c.isAlpha = true ↔ c.isUpper = true ∨ c.isLower = true :=
  (Bool.or_eq_true _ _).to_iff

/-! ## Runs -/

/-- What has a property differs from what has it not. -/
theorem ne_of_holds {p : Char → Bool} {c d : Char} (h : p c = true) (hd : p d = false) : c ≠ d := by
  rintro rfl
  rw [h] at hd
  cases hd

/-- What has a property is none of some characters that have it not. -/
theorem not_mem_of_holds {p : Char → Bool} {c : Char} {cs : List Char} (h : p c = true)
    (hcs : cs.any p = false) : c ∉ cs := by
  intro hc
  rw [List.any_eq_false] at hcs
  exact hcs c hc h

section

variable {p : Char → Bool} {run rest : List Char} (hrun : ∀ c ∈ run, p c = true)
  (hrest : ∀ c, rest.head? = some c → p c = false)

include hrun hrest

/-- **A run of characters goes as far as the property that they have.** -/
theorem takeWhile_run : (run ++ rest).takeWhile p = run := by
  rw [List.takeWhile_append_of_pos hrun]
  cases rest with
  | nil => rw [List.takeWhile_nil, List.append_nil]
  | cons c cs => rw [List.takeWhile_cons_of_neg (by simp [hrest c rfl]), List.append_nil]

theorem dropWhile_run : (run ++ rest).dropWhile p = rest := by
  rw [List.dropWhile_append_of_pos hrun]
  cases rest with
  | nil => rfl
  | cons c cs => rw [List.dropWhile_cons_of_neg (by simp [hrest c rfl])]

end

/-! ## Words -/

/-- Whether no character is a blank. -/
def IsWord (cs : List Char) : Prop :=
  ∀ c ∈ cs, isBlank c = false

/-- Whether a text goes on with a blank, if it goes on. -/
def StartsBlank (cs : List Char) : Prop :=
  ∀ c, cs.head? = some c → isBlank c = true

theorem startsBlank_nil : StartsBlank [] := by
  rintro c ⟨⟩

theorem startsBlank_space (cs : List Char) : StartsBlank (' ' :: cs) := by
  rintro c ⟨⟩
  rfl

theorem takeWhile_of_isWord {word rest : List Char} (hword : IsWord word)
    (hrest : StartsBlank rest) : (word ++ rest).takeWhile (!isBlank ·) = word :=
  takeWhile_run (fun c hc => by rw [hword c hc]; rfl) fun c hc => by rw [hrest c hc]; rfl

/-- **A word at the start of a text is determined by the text**, and so is what
follows it. -/
theorem append_inj_of_isWord {word word' rest rest' : List Char} (hword : IsWord word)
    (hword' : IsWord word') (hrest : StartsBlank rest) (hrest' : StartsBlank rest')
    (h : word ++ rest = word' ++ rest') : word = word' ∧ rest = rest' := by
  have hsame : word = word' := by
    rw [← takeWhile_of_isWord hword hrest, h, takeWhile_of_isWord hword' hrest']
  subst hsame
  exact ⟨rfl, List.append_cancel_left h⟩

/-! ## Separators -/

theorem splitWhere_of_forall {p : Char → Bool} {cs : List Char} (h : ∀ c ∈ cs, p c = false) :
    splitWhere p cs = [cs] := by
  induction cs with
  | nil => rfl
  | cons c cs ih =>
    rw [splitWhere, h c List.mem_cons_self, ih fun d hd => h d (List.mem_cons_of_mem _ hd)]
    rfl

/-- The first piece goes up to the first separator. -/
theorem splitWhere_append {p : Char → Bool} {cs : List Char} (h : ∀ c ∈ cs, p c = false)
    {sep : Char} (hsep : p sep = true) (rest : List Char) :
    splitWhere p (cs ++ sep :: rest) = cs :: splitWhere p rest := by
  induction cs with
  | nil => rw [List.nil_append, splitWhere, if_pos hsep]
  | cons c cs ih =>
    rw [List.cons_append, splitWhere, h c List.mem_cons_self,
      ih fun d hd => h d (List.mem_cons_of_mem _ hd)]
    rfl

/-- A text starts with its first word. -/
theorem words_append {word rest : List Char} (hne : word ≠ []) (hword : IsWord word)
    (hrest : StartsBlank rest) : ∃ more, words (word ++ rest) = word :: more := by
  cases rest with
  | nil =>
    refine ⟨[], ?_⟩
    rw [List.append_nil, words, splitWhere_of_forall hword]
    simp [hne]
  | cons c rest =>
    refine ⟨words rest, ?_⟩
    rw [words, splitWhere_append hword (hrest c rfl)]
    simp [hne, words]

/-! ## Searches -/

theorem firstSuffix?_of_some {α : Type} {f : List Char → Option α} {cs : List Char} {a : α}
    (h : f cs = some a) : firstSuffix? f cs = some a := by
  cases cs with
  | nil => exact h
  | cons c cs => rw [firstSuffix?, h]

theorem firstSuffix?_map {α β : Type} (f : List Char → Option α) (g : α → β) (cs : List Char) :
    (firstSuffix? f cs).map g = firstSuffix? (fun ds => (f ds).map g) cs := by
  induction cs with
  | nil => rfl
  | cons c cs ih =>
    rw [firstSuffix?, firstSuffix?, ← ih]
    cases f (c :: cs) <;> rfl

/-- Nothing is found but at the start of a text, if nothing is found later on. -/
theorem firstSuffix?_eq_self {α : Type} {f : List Char → Option α} {cs : List Char}
    (h : ∀ suffix, suffix <:+ cs → suffix ≠ cs → f suffix = none) : firstSuffix? f cs = f cs := by
  induction cs with
  | nil => rfl
  | cons c cs ih =>
    have hrest : f cs = none := h cs (List.suffix_cons c cs) (List.cons_ne_self c cs).symm
    have hlater : firstSuffix? f cs = none := by
      rw [ih fun suffix hsuffix hne => h suffix (hsuffix.trans (List.suffix_cons c cs)) ?_, hrest]
      rintro rfl
      exact absurd hsuffix.length_le (by simp)
    rw [firstSuffix?, hlater]
    cases f (c :: cs) <;> rfl

/-- A search that does not look beyond a separator goes on behind it. -/
theorem firstSuffix?_append {α : Type} {f : List Char → Option α} {sep : Char}
    (hf : ∀ cs rest, f (cs ++ sep :: rest) = f cs) (cs rest : List Char) :
    firstSuffix? f (cs ++ sep :: rest) = (firstSuffix? f cs).or (firstSuffix? f rest) := by
  induction cs with
  | nil =>
    rw [List.nil_append, firstSuffix?, firstSuffix?, show f (sep :: rest) = f [] from hf [] rest]
    cases f [] <;> rfl
  | cons c cs ih =>
    rw [List.cons_append, firstSuffix?, firstSuffix?, ih,
      show f (c :: (cs ++ sep :: rest)) = f (c :: cs) from hf (c :: cs) rest]
    cases f (c :: cs) <;> rfl

/-- **A search that does not look beyond a separator goes piece by piece.** -/
theorem firstSuffix?_eq_findSome? {α : Type} {f : List Char → Option α} {sep : Char}
    (hf : ∀ cs rest, f (cs ++ sep :: rest) = f cs) (cs : List Char) :
    firstSuffix? f cs = (split sep cs).findSome? (firstSuffix? f) := by
  -- on the length, since the first piece may be long
  induction hlength : cs.length using Nat.strong_induction_on generalizing cs with
  | _ n ih =>
    by_cases hsep : sep ∈ cs
    · obtain ⟨before, after, rfl, hbefore⟩ := List.eq_append_cons_of_mem hsep
      have hpiece : ∀ c ∈ before, (c == sep) = false := fun c hc =>
        beq_eq_false_iff_ne.mpr (ne_of_mem_of_not_mem hc hbefore)
      rw [firstSuffix?_append hf, split, splitWhere_append hpiece (beq_self_eq_true sep),
        List.findSome?_cons, ih after.length (by simp at hlength; omega) after rfl, split]
      cases firstSuffix? f before <;> rfl
    · have hpiece : ∀ c ∈ cs, (c == sep) = false := fun c hc =>
        beq_eq_false_iff_ne.mpr (ne_of_mem_of_not_mem hc hsep)
      rw [split, splitWhere_of_forall hpiece, List.findSome?_cons, List.findSome?_nil]
      cases firstSuffix? f cs <;> rfl

/-! ## Occurrences -/

/-- The rest of a line goes as far as the line feed. -/
theorem restOfLine_append {line rest : List Char} (hline : '\n' ∉ line)
    (hrest : ∀ c, rest.head? = some c → c = '\n') : restOfLine (line ++ rest) = line := by
  refine takeWhile_run (fun c hc => ?_) fun c hc => by rw [hrest c hc]; rfl
  rw [bne_iff_ne]
  exact ne_of_mem_of_not_mem hc hline

/-- What comes first in a text comes first with more behind it, if it does not have
the character that separates the two. -/
theorem after?_append_cons {needle : List Char} {sep : Char} (hsep : sep ∉ needle)
    (cs rest : List Char) :
    after? needle (cs ++ sep :: rest) = (after? needle cs).map (· ++ sep :: rest) := by
  induction needle generalizing cs with
  | nil => rfl
  | cons n ns ih =>
    rw [List.mem_cons, not_or] at hsep
    cases cs with
    | nil => exact if_neg (Ne.symm hsep.1)
    | cons c cs =>
      rw [List.cons_append, after?, after?, ih hsep.2]
      split <;> rfl

theorem isSome_after?_iff {needle cs : List Char} :
    (after? needle cs).isSome = true ↔ needle <+: cs := by
  rw [Option.isSome_iff_exists]
  constructor
  · intro ⟨rest, hrest⟩
    exact ⟨rest, (after?_eq_some_iff.mp hrest).symm⟩
  · intro ⟨rest, hrest⟩
    exact ⟨rest, after?_eq_some_iff.mpr hrest.symm⟩

/-- What comes first does not reach over a character that it does not have. -/
theorem prefix_of_append_cons {needle before after : List Char} {sep : Char} (hsep : sep ∉ needle)
    (h : needle <+: before ++ sep :: after) : needle <+: before := by
  rwa [← isSome_after?_iff, after?_append_cons hsep, Option.isSome_map, isSome_after?_iff] at h

/-- What comes first does not go on behind a separator that it does not have. -/
theorem prefix_of_append {needle cs rest : List Char} {sep : Char} (hsep : sep ∉ needle)
    (hrest : ∀ c, rest.head? = some c → c = sep) (h : needle <+: cs ++ rest) : needle <+: cs := by
  cases rest with
  | nil => rwa [List.append_nil] at h
  | cons c rest =>
    obtain rfl : c = sep := hrest c rfl
    exact prefix_of_append_cons hsep h

/-- **Nothing occurs across a character that it does not have.** -/
theorem infix_of_append_cons {needle before after : List Char} {sep : Char} (hsep : sep ∉ needle)
    (h : needle <:+: before ++ sep :: after) : needle <:+: before ∨ needle <:+: after := by
  induction before with
  | nil =>
    rcases List.infix_cons_iff.mp h with hfirst | hlater
    · exact .inl (prefix_of_append_cons hsep hfirst).isInfix
    · exact .inr hlater
  | cons c before ih =>
    rw [List.cons_append, List.infix_cons_iff, ← List.cons_append] at h
    rcases h with hfirst | hlater
    · exact .inl (prefix_of_append_cons hsep hfirst).isInfix
    · exact (ih hlater).imp_left List.infix_cons

/-- What does not occur is not replaced. -/
theorem replace_of_not_isInfix {needle cs : List Char} (new : List Char) (h : ¬ needle <:+: cs) :
    replace needle new cs = cs := by
  cases needle with
  | nil => rfl
  | cons n ns =>
    rw [replace]
    induction cs with
    | nil => rfl
    | cons c rest ih =>
      rw [List.infix_cons_iff, not_or] at h
      rw [replace.go, if_neg fun hfirst => h.1 (isSome_after?_iff.mp hfirst), ih h.2]

/-- A character that is replaced by others is gone. -/
theorem not_mem_replace {c : Char} {new : List Char} (h : c ∉ new) (cs : List Char) :
    c ∉ replace [c] new cs := by
  rw [replace]
  induction cs with
  | nil => exact List.not_mem_nil
  | cons d rest ih =>
    rw [replace.go]
    split
    next => exact List.not_mem_append h ih
    next hother =>
      refine List.not_mem_cons_of_ne_of_not_mem ?_ ih
      rintro rfl
      exact hother (isSome_after?_iff.mpr (List.prefix_append [c] rest))

theorem replace_go_append_cons {n : Char} {ns new before after : List Char} {sep : Char}
    (hsep : sep ∉ n :: ns) {skip : Nat} (hskip : skip ≤ before.length) :
    replace.go new n ns skip (before ++ sep :: after) =
      replace.go new n ns skip before ++ sep :: replace.go new n ns 0 after := by
  -- what is left to be skipped of an occurrence never reaches the separator: `hskip`
  induction before generalizing skip with
  | nil =>
    obtain rfl : skip = 0 := Nat.le_zero.mp hskip
    have hfirst : ¬ (n :: ns) <+: sep :: after := fun h =>
      hsep (by rw [(List.cons_prefix_cons.mp h).1]; exact List.mem_cons_self)
    rw [List.nil_append, show replace.go new n ns 0 [] = [] from rfl, List.nil_append,
      replace.go, if_neg fun h => hfirst (isSome_after?_iff.mp h)]
  | cons c before ih =>
    cases skip with
    | succ skip =>
      rw [List.cons_append, replace.go, replace.go, ih (Nat.le_of_succ_le_succ hskip)]
    | zero =>
      rw [List.cons_append, replace.go, replace.go]
      by_cases hfirst : (n :: ns) <+: c :: before
      · have hreach : ns.length ≤ before.length := Nat.le_of_succ_le_succ hfirst.length_le
        have hwhole : (n :: ns) <+: c :: (before ++ sep :: after) :=
          hfirst.trans (List.prefix_append (c :: before) _)
        rw [if_pos (isSome_after?_iff.mpr hwhole), if_pos (isSome_after?_iff.mpr hfirst),
          ih hreach, List.append_assoc]
      · have hwhole : ¬ (n :: ns) <+: c :: (before ++ sep :: after) := by
          rw [← List.cons_append]
          exact fun h => hfirst (prefix_of_append_cons hsep h)
        rw [if_neg fun h => hwhole (isSome_after?_iff.mp h),
          if_neg fun h => hfirst (isSome_after?_iff.mp h), ih (Nat.zero_le _), List.cons_append]

/-- **What is on either side of a character is replaced by itself**, if what is
replaced does not have the character. -/
theorem replace_append_cons {needle before after : List Char} {sep : Char} (new : List Char)
    (hsep : sep ∉ needle) :
    replace needle new (before ++ sep :: after) =
      replace needle new before ++ sep :: replace needle new after := by
  cases needle with
  | nil => rfl
  | cons n ns => exact replace_go_append_cons hsep (Nat.zero_le _)

/-- Nothing comes in by a replacement but what is put in. -/
theorem mem_of_mem_replace {needle new cs : List Char} {c : Char} (h : c ∈ replace needle new cs) :
    c ∈ cs ∨ c ∈ new := by
  cases needle with
  | nil => exact .inl h
  | cons n ns =>
    rw [replace] at h
    -- for any number of characters that are still to be skipped
    generalize 0 = skip at h
    induction cs generalizing skip with
    | nil =>
      rw [replace.go] at h
      cases h
    | cons d rest ih =>
      cases skip with
      | succ skip =>
        rw [replace.go] at h
        exact (ih _ h).imp_left (List.mem_cons_of_mem d)
      | zero =>
        rw [replace.go] at h
        split at h
        · rcases List.mem_append.mp h with hnew | hrest
          · exact .inr hnew
          · exact (ih _ hrest).imp_left (List.mem_cons_of_mem d)
        · rcases List.mem_cons.mp h with rfl | hrest
          · exact .inl List.mem_cons_self
          · exact (ih _ hrest).imp_left (List.mem_cons_of_mem d)

/-- Nothing occurs where its first character is missing. -/
theorem infix_of_append {a : Char} {as before after : List Char} (ha : a ∉ before)
    (h : (a :: as) <:+: before ++ after) : (a :: as) <:+: after := by
  induction before with
  | nil => exact h
  | cons b before ih =>
    rw [List.mem_cons, not_or] at ha
    rcases List.infix_cons_iff.mp h with hfirst | hlater
    · exact absurd (List.cons_prefix_cons.mp hfirst).1 ha.1
    · exact ih ha.2 hlater

/-- **No two characters come together by a replacement**, if what is put in is not
empty and has neither of them. -/
theorem pair_infix_of_replace {needle new cs : List Char} {a b : Char} (hne : new ≠ [])
    (ha : a ∉ new) (hb : b ∉ new) (h : [a, b] <:+: replace needle new cs) : [a, b] <:+: cs := by
  cases needle with
  | nil => exact h
  | cons n ns =>
    obtain ⟨m, ms, rfl⟩ := List.exists_cons_of_ne_nil hne
    rw [replace] at h
    generalize 0 = skip at h
    induction cs generalizing skip with
    | nil => exact h
    | cons c rest ih =>
      cases skip with
      | succ skip =>
        rw [replace.go] at h
        exact List.infix_cons (ih _ h)
      | zero =>
        rw [replace.go] at h
        split at h
        · -- the first character is none of what is put in, so the pair is behind that
          exact List.infix_cons (ih _ (infix_of_append ha h))
        · rcases List.infix_cons_iff.mp h with hfirst | hlater
          · obtain ⟨rfl, hsecond⟩ := List.cons_prefix_cons.mp hfirst
            -- the second character is the first one of what follows
            cases rest with
            | nil =>
              rw [replace.go] at hsecond
              exact absurd (List.prefix_nil.mp hsecond) (List.cons_ne_nil _ _)
            | cons d rest =>
              rw [replace.go] at hsecond
              split at hsecond
              · obtain ⟨rfl, -⟩ := List.cons_prefix_cons.mp hsecond
                exact absurd List.mem_cons_self hb
              · obtain ⟨rfl, -⟩ := List.cons_prefix_cons.mp hsecond
                exact ⟨[], rest, rfl⟩
          · exact List.infix_cons (ih _ hlater)

end Chars

namespace Text

theorem replace_of_not_isInfix {needle s : String} (new : String)
    (h : ¬ needle.toList <:+: s.toList) : replace needle new s = s := by
  rw [replace, Chars.replace_of_not_isInfix _ h, String.ofList_toList]

/-- What comes first in a text is cut off, and nothing else is. -/
theorem after?_eq_some_iff {first s rest : String} :
    after? first s = some rest ↔ s = first ++ rest := by
  rw [after?, Option.map_eq_some_iff]
  constructor
  · rintro ⟨cs, hcs, rfl⟩
    rw [← String.toList_inj, Chars.after?_eq_some_iff.mp hcs]
    simp
  · rintro rfl
    exact ⟨rest.toList, Chars.after?_eq_some_iff.mpr (by simp), String.ofList_toList⟩

/-- **Pieces that are joined with a separator are found again**, if the separator is
in none of them. -/
theorem split_intercalate {sep : Char} {pieces : List String} (hne : pieces ≠ [])
    (h : ∀ piece ∈ pieces, sep ∉ piece.toList) :
    split sep ((String.singleton sep).intercalate pieces) = pieces := by
  induction pieces with
  | nil => exact absurd rfl hne
  | cons piece rest ih =>
    have hpiece : ∀ c ∈ piece.toList, (c == sep) = false := by
      intro c hc
      rw [beq_eq_false_iff_ne]
      rintro rfl
      exact h piece List.mem_cons_self hc
    cases rest with
    | nil =>
      rw [split, String.toList_intercalate, List.map_singleton, List.intercalate_singleton,
        Chars.split, Chars.splitWhere_of_forall hpiece, List.map_singleton, String.ofList_toList]
    | cons next rest =>
      have hrest := ih (List.cons_ne_nil next rest) fun s hs => h s (List.mem_cons_of_mem _ hs)
      rw [split, String.toList_intercalate] at hrest ⊢
      rw [List.map_cons, List.map_cons, List.intercalate_cons_cons, String.toList_singleton,
        List.append_assoc, List.singleton_append, Chars.split,
        Chars.splitWhere_append hpiece (beq_self_eq_true sep), List.map_cons, String.ofList_toList]
      rw [List.map_cons, String.toList_singleton, Chars.split] at hrest
      rw [hrest]

end Text

end Lineage
