import Mathlib.Data.List.Infix
import Lineage.Leveled.Link
import Lineage.Proofs.Leveled.Tree

/-!
# Searches line by line

A value is looked for anywhere in a text, by what stands in front of it on its line.
Nothing of that is a line feed, so the search goes line by line. Where a level and a
tag stand at the starts of lines only, the first line with the tag is found
(`firstValue?_eq`). Occurrences that take the rest of their line with them are the lines
that they are on (`occurrences_line`), so that there are at least as many of them as
lines that start with what is looked for (`countP_hasTag_le_occurrences`).
-/

namespace Lineage.Leveled

/-! ## The value of a tag -/

/-- The value of a line that starts with a level digit and the tag: what is behind the
tag, without blanks around it and without at signs. There must be something. -/
def tagValue? (tag line : String) : Option String :=
  (((afterTag? tag line.toList).map Chars.restOfLine).filter fun value => !value.isEmpty).map
    fun value => Text.without '@' (Text.trim (.ofList value))

/-- The value of the first line that starts with a level digit and the tag. -/
def firstTagValue? (tag text : String) : Option String :=
  (Text.split '\n' text).findSome? (tagValue? tag)

/-- Whether a level digit, the tag and a value stand at the starts of lines only. -/
def StartsLines (tag text : String) : Prop :=
  ∀ line ∈ Text.split '\n' text, ∀ cs, cs <:+ line.toList → cs ≠ line.toList →
    tagValue? tag (.ofList cs) = none

theorem mem_tail_tails_iff {cs ds : List Char} : ds ∈ cs.tails.tail ↔ ds <:+ cs ∧ ds ≠ cs := by
  cases cs with
  | nil => simp
  | cons c cs =>
    rw [List.tails_cons, List.tail_cons, List.mem_tails, List.suffix_cons_iff]
    constructor
    · intro h
      refine ⟨.inr h, ?_⟩
      rintro rfl
      exact absurd h.length_le (by simp)
    · rintro ⟨rfl | h, hne⟩
      · exact absurd rfl hne
      · exact h

instance (tag text : String) : Decidable (StartsLines tag text) :=
  decidable_of_iff
    (∀ line ∈ Text.split '\n' text, ∀ cs ∈ line.toList.tails.tail,
      tagValue? tag (.ofList cs) = none)
    (by simp only [StartsLines, mem_tail_tails_iff, and_imp])

/-- What follows a tag goes on behind the end of the line. -/
theorem afterTag?_append {tag : String} (htag : '\n' ∉ tag.toList) (cs rest : List Char) :
    afterTag? tag (cs ++ '\n' :: rest) = (afterTag? tag cs).map (· ++ '\n' :: rest) := by
  have hneedle : '\n' ∉ (" " ++ tag ++ " ").toList := by
    simpa using htag
  cases cs with
  | nil => rfl
  | cons digit cs =>
    rw [List.cons_append, afterTag?, afterTag?, Chars.after?_append_cons hneedle]
    split <;> rfl

theorem restOfLine_feed (cs rest : List Char) :
    Chars.restOfLine (cs ++ '\n' :: rest) = Chars.restOfLine cs := by
  rw [Chars.restOfLine, Chars.restOfLine]
  induction cs with
  | nil => rfl
  | cons c cs ih =>
    rw [List.cons_append, List.takeWhile_cons, List.takeWhile_cons, ih]

/-- A value is looked for from every character on. -/
theorem firstValue?_eq_firstSuffix? (tag text : String) :
    firstValue? tag text =
      Chars.firstSuffix? (fun cs => tagValue? tag (.ofList cs)) text.toList := by
  rw [firstValue?, Chars.firstSuffix?_map]
  have hline (found : Option (List Char)) :
      (do
        let line := Chars.restOfLine (← found)
        if line.isEmpty then none else some line) =
      (found.map Chars.restOfLine).filter fun value => !value.isEmpty := by
    cases found with
    | none => simp
    | some behind =>
      by_cases hempty : Chars.restOfLine behind = [] <;> simp [Option.filter, hempty]
  simp only [hline, tagValue?, Text.without, Text.trim, String.toList_ofList]

/-- Nothing behind the end of the line counts for its value. -/
theorem tagValue?_append {tag : String} (htag : '\n' ∉ tag.toList) (cs rest : List Char) :
    tagValue? tag (.ofList (cs ++ '\n' :: rest)) = tagValue? tag (.ofList cs) := by
  rw [tagValue?, tagValue?, String.toList_ofList, String.toList_ofList, afterTag?_append htag]
  generalize afterTag? tag cs = found
  cases found with
  | none => rfl
  | some behind => rw [Option.map_some, Option.map_some, Option.map_some, restOfLine_feed]

/-- **The first value of a tag is that of the first line with the tag.** -/
theorem firstValue?_eq {tag text : String} (htag : '\n' ∉ tag.toList)
    (hstarts : StartsLines tag text) : firstValue? tag text = firstTagValue? tag text := by
  rw [firstValue?_eq_firstSuffix?, Chars.firstSuffix?_eq_findSome? (tagValue?_append htag),
    firstTagValue?, Text.split, List.findSome?_map]
  -- on a line by itself only the start of the line counts
  have hline : ∀ line ∈ Chars.split '\n' text.toList,
      Chars.firstSuffix? (fun cs => tagValue? tag (.ofList cs)) line =
        tagValue? tag (.ofList line) := by
    intro line hline
    refine Chars.firstSuffix?_eq_self fun suffix hsuffix hne => ?_
    have hmem : String.ofList line ∈ Text.split '\n' text := List.mem_map_of_mem hline
    refine hstarts _ hmem suffix ?_ ?_
    · rwa [String.toList_ofList]
    · rwa [String.toList_ofList]
  generalize Chars.split '\n' text.toList = pieces at hline
  induction pieces with
  | nil => rfl
  | cons line rest ih =>
    rw [List.findSome?_cons, List.findSome?_cons, hline line List.mem_cons_self,
      ih fun l hl => hline l (List.mem_cons_of_mem _ hl)]
    rfl

/-! ## Occurrences -/

/-- The characters of an occurrence are skipped. -/
theorem occurrences_skip (needle skipped rest : List Char) :
    occurrences needle skipped.length (skipped ++ rest) = occurrences needle 0 rest := by
  induction skipped with
  | nil => rfl
  | cons c skipped ih => rw [List.length_cons, List.cons_append, occurrences, ih]

section

variable {needle : List Char} (hne : needle ≠ []) (hfeed : '\n' ∉ needle)

include hne hfeed

/-- **A line counts once** if what is looked for is on it, and else not at all. -/
theorem occurrences_line {line rest : List Char} (hline : '\n' ∉ line)
    (hrest : ∀ c, rest.head? = some c → c = '\n') :
    occurrences needle 0 (line ++ rest) =
      (if needle <:+: line then 1 else 0) + occurrences needle 0 rest := by
  induction line with
  | nil =>
    rw [if_neg fun h => hne (List.infix_nil.mp h), List.nil_append, Nat.zero_add]
  | cons c line ih =>
    rw [List.mem_cons, not_or] at hline
    rw [List.cons_append, occurrences]
    cases hafter : Chars.after? needle (c :: (line ++ rest)) with
    | none =>
      have hfirst : ¬ needle <+: c :: line := by
        rintro ⟨behind, hbehind⟩
        rw [← List.cons_append, ← hbehind, List.append_assoc,
          Chars.after?_eq_some_iff.mpr rfl] at hafter
        cases hafter
      have hoccurs : needle <:+: c :: line ↔ needle <:+: line := by
        rw [List.infix_cons_iff, or_iff_right hfirst]
      simp only [ih hline.2, hoccurs]
    | some behind =>
      -- the rest of the line goes with the occurrence
      have hwhole := Chars.after?_eq_some_iff.mp hafter
      have hlonger : needle <+: (c :: line) ++ rest := ⟨behind, hwhole.symm⟩
      obtain ⟨inside, hinside⟩ := Chars.prefix_of_append hfeed hrest hlonger
      have hbehind : behind = inside ++ rest := by
        rw [← List.cons_append, ← hinside, List.append_assoc] at hwhole
        exact (List.append_cancel_left hwhole).symm
      have hmem : '\n' ∉ inside := by
        intro h
        have : '\n' ∈ c :: line := hinside ▸ List.mem_append_right needle h
        exact (List.mem_cons.mp this).elim hline.1 hline.2
      have hlength : needle.length - 1 + (Chars.restOfLine behind).length = line.length := by
        have hlengths := congrArg List.length hinside
        rw [List.length_append, List.length_cons] at hlengths
        have := List.length_pos_of_ne_nil hne
        rw [hbehind, Chars.restOfLine_append hmem hrest]
        omega
      simp only
      rw [hlength, occurrences_skip, if_pos ⟨[], inside, hinside⟩]

/-- What is looked for does not start with the line feed. -/
theorem occurrences_feed (rest : List Char) :
    occurrences needle 0 ('\n' :: rest) = occurrences needle 0 rest := by
  have hafter : Chars.after? needle ('\n' :: rest) = none := by
    obtain ⟨n, ns, rfl⟩ := List.exists_cons_of_ne_nil hne
    rw [List.mem_cons, not_or] at hfeed
    exact if_neg (Ne.symm hfeed.1)
  rw [occurrences, hafter]

end

/-- **There are at least as many occurrences as lines that start with what is looked
for.** -/
theorem countP_hasTag_le_occurrences {tag : String} (hne : tag.toList ≠ [])
    (hfeed : '\n' ∉ tag.toList) (cs : List Char) :
    (Chars.lines cs).countP (fun line => hasTag tag (.ofList line)) ≤
      occurrences tag.toList 0 cs := by
  have hoccurs {line first : List Char} (hfirst : line = first ∨ line = first ++ ['\r']) :
      (if hasTag tag (.ofList first) = true then 1 else 0) ≤
        if tag.toList <:+: line then 1 else 0 := by
    by_cases htag : hasTag tag (.ofList first) = true
    · have hcomes : tag.toList <+: first := by
        obtain ⟨behind, hbehind, -⟩ := startsBlank_of_hasTag htag
        exact ⟨behind, by rw [← hbehind, String.toList_ofList]⟩
      have hline : tag.toList <:+: line := by
        rcases hfirst with rfl | rfl
        · exact hcomes.isInfix
        · exact (hcomes.trans (List.prefix_append _ _)).isInfix
      rw [if_pos htag, if_pos hline]
    · rw [if_neg htag]
      exact Nat.zero_le _
  -- on the length, since the first line may be long
  induction hlength : cs.length using Nat.strong_induction_on generalizing cs with
  | _ n ih =>
    by_cases hmem : '\n' ∈ cs
    · obtain ⟨line, rest, rfl, hline⟩ := List.eq_append_cons_of_mem hmem
      have hfirst := Chars.withoutReturn_cases line
      have hrest := ih rest.length (by simp at hlength; omega) rest rfl
      rw [Chars.lines_feed hline, List.countP_cons,
        occurrences_line hne hfeed hline (by rintro c ⟨⟩; rfl),
        occurrences_feed hne hfeed, Nat.add_comm]
      exact Nat.add_le_add (hoccurs hfirst) hrest
    · by_cases hnil : cs = []
      · rw [hnil]
        exact Nat.zero_le _
      · rw [Chars.lines_of_not_mem hnil hmem, ← List.append_nil cs,
          occurrences_line hne hfeed hmem (by rintro c ⟨⟩), List.append_nil, List.countP_singleton]
        exact hoccurs (.inl rfl)

end Lineage.Leveled
