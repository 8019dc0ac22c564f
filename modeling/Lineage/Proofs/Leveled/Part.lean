import Lineage.Leveled.Link
import Lineage.Proofs.Leveled.Lookup
import Lineage.Proofs.Leveled.Search

/-!
# Parts are the blocks of their tag

Where all lines start with a number, the blocks that are fetched one after the other by
their number are the parts in their order (`block_eq_getElem?`), and the blocks with a
number that is too high are empty. So it does no harm that more of them are asked for:
what is not empty are the parts (`filter_blocks`).
-/

namespace Lineage.Leveled

/-! ## The lines of a part -/

/-- Lines with numbers have numbers when they have been joined and cut again. -/
theorem isNumbered_of_mem_lines_unlines {ls : List String}
    (hsingle : ∀ line ∈ ls, '\n' ∉ line.toList) (hnumbered : ∀ line ∈ ls, isNumbered line = true) :
    ∀ line ∈ Text.lines (Text.unlines ls), isNumbered line = true := by
  rw [Text.lines_unlines_eq_recut hsingle]
  refine Text.forall_mem_recut fun line hline => ⟨hnumbered line hline, ?_⟩
  obtain ⟨d, ds, hchars, hd⟩ := isNumbered_iff.mp (hnumbered line hline)
  have hreturn : d ≠ '\r' := Chars.ne_of_holds hd (by decide)
  refine isNumbered_iff.mpr ⟨d, Chars.withoutReturn ds, ?_, hd⟩
  rw [Text.withoutReturn, hchars, String.toList_ofList,
    Chars.withoutReturn_cons fun hc => absurd hc hreturn]

section

variable {level : Nat} {t : Tag} {ls : List String}

/-- A part is made of lines, the first of which carries the tag. -/
theorem exists_of_mem_parts {part : List String} (h : part ∈ parts level t ls) :
    (∃ first rest, part = first :: rest) ∧ ∀ line ∈ part, line ∈ ls := by
  induction ls with
  | nil => cases h
  | cons line rest ih =>
    rw [parts] at h
    split at h
    · rcases List.mem_cons.mp h with rfl | h
      · refine ⟨⟨line, _, rfl⟩, fun l hl => ?_⟩
        rcases List.mem_cons.mp hl with rfl | hl
        · exact List.mem_cons_self
        · exact List.mem_cons_of_mem _ (List.takeWhile_prefix _ |>.subset hl)
      · obtain ⟨hfirst, hlines⟩ := ih h
        exact ⟨hfirst, fun l hl => List.mem_cons_of_mem _ (hlines l hl)⟩
    · obtain ⟨hfirst, hlines⟩ := ih h
      exact ⟨hfirst, fun l hl => List.mem_cons_of_mem _ (hlines l hl)⟩

/-- There is a part for each line that carries the tag. -/
theorem length_parts :
    (parts level t ls).length = ls.countP (hasTag (toString level ++ " " ++ t.text)) := by
  induction ls with
  | nil => rfl
  | cons line rest ih =>
    rw [parts, List.countP_cons]
    split
    · rw [List.length_cons, ih]
    · rw [ih, Nat.add_zero]

/-! ## Blocks by their number -/

theorem takeWhile_isDeeper (hnumbered : ∀ line ∈ ls, isNumbered line = true) :
    (ls.takeWhile fun line => !closesBlock level line) = ls.takeWhile (isDeeper level) := by
  induction ls with
  | nil => rfl
  | cons line rest ih =>
    rw [List.takeWhile_cons, List.takeWhile_cons,
      closesBlock_of_isNumbered (hnumbered line List.mem_cons_self), Bool.not_not,
      ih fun l hl => hnumbered l (List.mem_cons_of_mem _ hl)]

/-- **The lines of the blocks are the parts, in their order.** -/
theorem blockLines?_eq_getElem? (hnumbered : ∀ line ∈ ls, isNumbered line = true) (n : Nat) :
    blockLines? level (toString level ++ " " ++ t.text) (n + 1) ls = (parts level t ls)[n]? := by
  induction ls generalizing n with
  | nil => rfl
  | cons line rest ih =>
    have hrest := fun l hl => hnumbered l (List.mem_cons_of_mem line hl)
    rw [parts, blockLines?, fromTag.eq_def]
    simp only
    split
    · -- a line with the tag is the block of the first number and uses up one of the others
      cases n with
      | zero =>
        rw [List.getElem?_cons_zero, Option.map_some, takeWhile_isDeeper hrest]
      | succ n =>
        rw [List.getElem?_cons_succ, ← ih hrest]
        rfl
    · rw [← ih hrest]
      rfl

end

/-- **The blocks of a text are its parts**, and there is nothing behind the last one. -/
theorem block_eq_getElem? {text : String}
    (hnumbered : ∀ line ∈ Text.lines text, isNumbered line = true) (level : Nat) (t : Tag)
    (n : Nat) :
    block level (toString level ++ " " ++ t.text) text (n + 1) =
      (((parts level t (Text.lines text)).map Text.unlines)[n]?).getD "" := by
  rw [block_eq (Tree.trim_opening level t.nonempty t.isWord) (Tree.opening_ne level t.text),
    blockLines?_eq_getElem? hnumbered, List.getElem?_map]
  cases hpart : (parts level t (Text.lines text))[n]? with
  | none => rfl
  | some part =>
    obtain ⟨⟨first, rest, rfl⟩, hlines⟩ := exists_of_mem_parts (List.mem_of_getElem? hpart)
    have hfirst := hnumbered first (hlines first List.mem_cons_self)
    exact (trimStart_unlines hfirst rest).1

theorem map_range_getElem? {α : Type} (l : List α) (d : α) {n : Nat} (h : l.length ≤ n) :
    ((List.range n).map fun i => l[i]?.getD d) = l ++ List.replicate (n - l.length) d := by
  refine List.ext_getElem ?_ fun i h₁ h₂ => ?_
  · simp only [List.length_map, List.length_range, List.length_append, List.length_replicate]
    omega
  · rw [List.getElem_map, List.getElem_range, List.getElem_append]
    split
    next hi => rw [List.getElem?_eq_getElem hi, Option.getD_some]
    next hi =>
      rw [List.getElem?_eq_none (Nat.not_lt.mp hi), Option.getD_none, List.getElem_replicate]

/-- **As many blocks as there are occurrences of the tag give all parts**: the surplus
ones are empty. -/
theorem filter_blocks {text : String}
    (hnumbered : ∀ line ∈ Text.lines text, isNumbered line = true) (level : Nat) (t : Tag)
    (visible : String → Bool) :
    (((List.range' 1 (occurrences (toString level ++ " " ++ t.text).toList 0 text.toList)).map
        (block level (toString level ++ " " ++ t.text) text)).filter
          fun part => !part.isEmpty && visible part) =
      ((parts level t (Text.lines text)).map Text.unlines).filter visible := by
  have hfeed : '\n' ∉ (toString level ++ " " ++ t.text).toList := by
    rw [Tree.toList_opening, Tree.opening]
    intro h
    rcases List.mem_append.mp h with h | h
    · exact absurd (isWord_toDigits level _ h) (by decide)
    · rcases List.mem_cons.mp h with h | h
      · cases h
      · exact absurd (t.isWord _ h) (by decide)
  have hcount : ((parts level t (Text.lines text)).map Text.unlines).length ≤
      occurrences (toString level ++ " " ++ t.text).toList 0 text.toList := by
    have hne := String.toList_inj.ne.mpr (Tree.opening_ne level t.text)
    rw [List.length_map, length_parts, Text.lines, List.countP_map]
    exact countP_hasTag_le_occurrences hne hfeed text.toList
  have hblocks : (List.range' 1
      (occurrences (toString level ++ " " ++ t.text).toList 0 text.toList)).map
        (block level (toString level ++ " " ++ t.text) text) =
      (parts level t (Text.lines text)).map Text.unlines ++ List.replicate
        (occurrences (toString level ++ " " ++ t.text).toList 0 text.toList -
          ((parts level t (Text.lines text)).map Text.unlines).length) "" := by
    rw [← map_range_getElem? _ "" hcount, List.range'_eq_map_range, List.map_map]
    refine List.map_congr_left fun n _ => ?_
    rw [Function.comp_apply, Nat.add_comm, block_eq_getElem? hnumbered]
  have hsurplus (n : Nat) : ((List.replicate n "").filter
      fun part => !part.isEmpty && visible part) = [] := by
    rw [List.filter_eq_nil_iff]
    intro part hpart
    rw [List.eq_of_mem_replicate hpart]
    simp
  rw [hblocks, List.filter_append, hsurplus, List.append_nil]
  refine List.filter_congr fun text hpart => ?_
  obtain ⟨part, hmem, rfl⟩ := List.mem_map.mp hpart
  obtain ⟨⟨first, rest, rfl⟩, hlines⟩ := exists_of_mem_parts hmem
  rw [(trimStart_unlines (hnumbered first (hlines first List.mem_cons_self)) rest).2]
  rfl

/-! ## Links -/

/-- **The cross-reference that a text starts with.** -/
theorem leadingXref?_eq_some_iff {xref text : String} :
    leadingXref? text = some xref ↔ StartsWithLink xref text := by
  unfold leadingXref? StartsWithLink
  constructor
  · intro h
    split at h
    next digit rest htext =>
      split at h
      next hdigit =>
        simp only [Option.bind_eq_bind, Option.bind_eq_some_iff] at h
        obtain ⟨link, hlink, ⟨found, behind⟩, hcut, hfound⟩ := h
        split at hfound
        next => cases hfound
        next hne =>
          cases hfound
          rw [Bool.or_eq_true, List.isEmpty_iff, List.isEmpty_iff, not_or] at hne
          obtain ⟨rfl, hat⟩ := Chars.cut?_eq_some_iff.mp hcut
          rw [Chars.after?_eq_some_iff] at hlink
          refine ⟨digit, rest.takeWhile (!Chars.isBlank ·), behind, ?_, hdigit, hne.1, ?_, ?_, ?_⟩
          · rw [htext, String.toList_ofList]
            rw [show ' ' :: '@' :: (found ++ '@' :: behind) = _ from hlink.symm,
              List.prefix_iff_eq_append.mp (List.takeWhile_prefix _)]
          · intro c hc
            simpa using List.mem_takeWhile_imp hc
          · rw [← String.toList_inj.ne, String.toList_ofList]
            exact hne.2
          · rwa [String.toList_ofList]
      next => cases h
    next => cases h
  · rintro ⟨digit, tag, rest, htext, hdigit, htag, hword, hne, hat⟩
    rw [htext]
    simp only [hdigit, if_true]
    rw [Chars.takeWhile_of_isWord hword (Chars.startsBlank_space _), List.drop_left]
    have hxref : xref.toList ≠ [] := String.toList_inj.ne.mpr hne
    simp [Chars.after?, Chars.cut?_append hat, htag, hxref]

/-- A link without a line feed is one of the first line. -/
theorem startsWithLink_unlines_iff {xref first : String} {rest : List String}
    (hxref : '\n' ∉ xref.toList) :
    StartsWithLink xref (Text.unlines (first :: rest)) ↔ StartsWithLink xref first := by
  obtain ⟨tail, htail, hfeed⟩ := exists_unlines_cons first rest
  unfold StartsWithLink
  rw [htail]
  constructor
  · rintro ⟨digit, tag, behind, htext, hdigit, htag, hword, hne, hat⟩
    -- what makes the link has no line feed, so it ends on the first line
    have hplain : '\n' ∉ digit :: ' ' :: (tag ++ ' ' :: '@' :: (xref.toList ++ ['@'])) := by
      have hdigit' : digit ≠ '\n' := Chars.ne_of_holds hdigit (by decide)
      have htag' : '\n' ∉ tag := fun h => absurd (hword _ h) (by decide)
      simp [hdigit'.symm, htag', hxref]
    have hlonger : digit :: ' ' :: (tag ++ ' ' :: '@' :: (xref.toList ++ ['@'])) <+:
        first.toList ++ tail := ⟨behind, by rw [htext]; simp⟩
    obtain ⟨more, hmore⟩ := Chars.prefix_of_append hplain hfeed hlonger
    exact ⟨digit, tag, more, by rw [← hmore]; simp, hdigit, htag, hword, hne, hat⟩
  · rintro ⟨digit, tag, behind, htext, hdigit, htag, hword, hne, hat⟩
    exact ⟨digit, tag, behind ++ tail, by rw [htext]; simp, hdigit, htag, hword, hne, hat⟩

end Lineage.Leveled
