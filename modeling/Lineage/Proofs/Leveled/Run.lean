import Lineage.Leveled.Run
import Lineage.Proofs.Leveled.Lookup

/-!
# Blocks are the runs of their tag

A block is searched for by counting the lines that carry a tag, and it is cut off where
a line closes it. Where the tag is the level of the blocks with a label, the two go
together: a line that carries the tag has the level, so it closes every run before it
(`closes_of_hasTag`). This is why a run has one such line only, its first, and why runs
do not overlap. Nothing else is asked of the lines: they may be of any form.

> `block_isRun`: the block with a number is the run with that number, and there is none
> exactly when fewer lines carry the tag.
-/

namespace Lineage.Leveled

theorem Label.isWord (label : Label) : Chars.IsWord label.text.toList := by
  intro c hc
  simpa using List.all_eq_true.mp label.plain c hc

theorem Label.toList_opening (label : Label) (level : Nat) :
    (label.opening level).toList = Tree.opening level label.text.toList :=
  Tree.toList_opening level label.text

theorem Label.opening_ne (label : Label) (level : Nat) : label.opening level ≠ "" :=
  Tree.opening_ne level label.text

theorem Label.trim_opening (label : Label) (level : Nat) :
    Text.trim (label.opening level) = label.opening level :=
  Tree.trim_opening level label.nonempty label.isWord

/-! ## Lines that close a run -/

theorem closesBlock_iff {level : Nat} {line : String} :
    closesBlock level line = true ↔ Closes level line := by
  unfold closesBlock Closes
  cases level? line with
  | some own => simp
  | none => simp [Text.startsWith, Chars.isSome_after?_iff]

/-- A line that carries the tag opens with its level and label. -/
theorem exists_opening_of_hasTag {level : Nat} {label : Label} {line : String}
    (h : hasTag (label.opening level) line = true) :
    ∃ behind, line.toList = Tree.opening level label.text.toList ++ behind ∧
      Chars.StartsBlank behind := by
  obtain ⟨behind, hline, hbehind⟩ := startsBlank_of_hasTag h
  rw [Label.toList_opening] at hline
  exact ⟨behind, hline, hbehind⟩

/-- **A line that carries the tag closes the runs before it**, since it has their
level. -/
theorem closes_of_hasTag {level : Nat} (hlevel : level < 18446744073709551616)
    {label : Label} {line : String} (h : hasTag (label.opening level) line = true) :
    Closes level line := by
  obtain ⟨behind, hline, -⟩ := exists_opening_of_hasTag h
  rw [← closesBlock_iff, Tree.closesBlock_of_opening hline hlevel]
  exact decide_eq_true (Nat.le_refl level)

/-! ## Searching and cutting off -/

variable {tag : String} {ls : List String}

/-- **The search stops at the line with the number**, counted from 0. -/
theorem fromTag_eq_some {n : Nat} {first : String} {rest : List String}
    (h : fromTag tag n ls = some (first, rest)) :
    ∃ before, ls = before ++ first :: rest ∧ before.countP (hasTag tag) = n ∧
      hasTag tag first = true := by
  induction ls generalizing n with
  | nil =>
    rw [fromTag] at h
    cases h
  | cons line ls ih =>
    rw [fromTag.eq_def] at h
    simp only at h
    by_cases htag : hasTag tag line = true
    · rw [if_pos htag] at h
      cases n with
      | zero =>
        cases h
        exact ⟨[], rfl, rfl, htag⟩
      | succ n =>
        obtain ⟨before, hls, hcount, hfirst⟩ := ih h
        refine ⟨line :: before, ?_, ?_, hfirst⟩
        · rw [hls, List.cons_append]
        · rw [List.countP_cons_of_pos htag, hcount]
    · rw [if_neg htag] at h
      obtain ⟨before, hls, hcount, hfirst⟩ := ih h
      refine ⟨line :: before, ?_, ?_, hfirst⟩
      · rw [hls, List.cons_append]
      · rw [List.countP_cons_of_neg htag, hcount]

/-- The search finds nothing exactly when too few lines carry the tag. -/
theorem fromTag_eq_none_iff {n : Nat} :
    fromTag tag n ls = none ↔ ls.countP (hasTag tag) ≤ n := by
  induction ls generalizing n with
  | nil => simp [fromTag]
  | cons line ls ih =>
    rw [fromTag.eq_def]
    simp only
    by_cases htag : hasTag tag line = true
    · rw [if_pos htag, List.countP_cons_of_pos htag]
      cases n with
      | zero => simp
      | succ n =>
        show fromTag tag n ls = none ↔ _
        rw [ih]
        omega
    · rw [if_neg htag, List.countP_cons_of_neg htag, ih]

/-- What has been found by a number is the run with that number. -/
theorem isRun_of_blockLines? {level n : Nat} {run : List String}
    (h : blockLines? level tag n ls = some run) :
    ∃ before after, IsRun level tag ls n before run after := by
  cases n with
  | zero => cases h
  | succ n =>
    rw [blockLines?, Option.map_eq_some_iff] at h
    obtain ⟨⟨first, rest⟩, hfound, hrun⟩ := h
    obtain ⟨before, hls, hcount, hfirst⟩ := fromTag_eq_some hfound
    -- the lines that do not close the run, and those from the first one that does
    refine ⟨before, rest.dropWhile fun line => !closesBlock level line, ?_, ?_, ?_, ?_⟩
    · rw [← hrun, List.append_assoc, List.cons_append, List.takeWhile_append_dropWhile, hls]
    · rw [hcount]
    · refine ⟨first, _, hrun.symm, hfirst, ?_⟩
      intro line hline hcloses
      have hopen := List.mem_takeWhile_imp hline
      rw [closesBlock_iff.mpr hcloses] at hopen
      cases hopen
    · intro line hline
      have hstop := List.head?_dropWhile_not (fun line => !closesBlock level line) rest
      rw [hline] at hstop
      exact closesBlock_iff.mp (by simpa using hstop)

/-! ## The lines of a run -/

section

variable {level : Nat} (hlevel : level < 18446744073709551616) {label : Label}

include hlevel

/-- **A run has a single line that carries the tag**: it would have ended in front of
another one. -/
theorem IsRun.countP_run {n : Nat} {before run after : List String}
    (h : IsRun level (label.opening level) ls n before run after) :
    run.countP (hasTag (label.opening level)) = 1 := by
  obtain ⟨first, rest, hrun, hfirst, hopen⟩ := h.started
  have hrest : rest.countP (hasTag (label.opening level)) = 0 := by
    rw [List.countP_eq_zero]
    intro line hline htag
    exact hopen line hline (closes_of_hasTag hlevel htag)
  rw [hrun, List.countP_cons_of_pos hfirst, hrest]

/-- **A run with a lower number ends before one with a higher number starts.** -/
theorem IsRun.prefix_of_lt {m n : Nat} {before run after before' run' after' : List String}
    (h : IsRun level (label.opening level) ls m before run after)
    (h' : IsRun level (label.opening level) ls n before' run' after') (hlt : m < n) :
    before ++ run <+: before' := by
  have hhere : before ++ run <+: ls := ⟨after, h.lines_eq.symm⟩
  have hthere : before' <+: ls := ⟨run' ++ after', by rw [h'.lines_eq, List.append_assoc]⟩
  -- both are starts of the lines, so the longer one starts with the other
  rcases List.prefix_or_prefix_of_prefix hhere hthere with hprefix | ⟨between, hbetween⟩
  · exact hprefix
  cases between with
  | nil =>
    rw [List.append_nil] at hbetween
    exact ⟨[], by rw [hbetween, List.append_nil]⟩
  | cons line between =>
    exfalso
    -- the line behind the shorter one is the first line of the later run
    obtain ⟨first, rest, hrun', hfirst, -⟩ := h'.started
    have hline : line = first := by
      have hsame :
          before' ++ line :: (between ++ after) = before' ++ first :: (rest ++ after') := by
        calc before' ++ line :: (between ++ after)
            = (before' ++ line :: between) ++ after := by simp
          _ = ls := by rw [hbetween, h.lines_eq]
          _ = before' ++ first :: (rest ++ after') := by
            rw [h'.lines_eq, hrun', List.append_assoc, List.cons_append]
      exact (List.cons.inj (List.append_cancel_left hsame)).1
    -- so the run would have to hold more lines with the tag than one
    have hcount := congrArg (List.countP (hasTag (label.opening level))) hbetween
    rw [List.countP_append, List.countP_append, hline, List.countP_cons_of_pos hfirst,
      h.countP_run hlevel] at hcount
    have hnumber := h.counted
    have hnumber' := h'.counted
    omega

end

/-! ## The text of a run -/

/-- A carriage return at the end of a line does not count for what the line starts
with. -/
theorem hasTag_withoutReturn (htag : '\r' ∉ tag.toList) (line : String) :
    hasTag tag (Text.withoutReturn line) = hasTag tag line := by
  rw [Text.withoutReturn]
  rcases Chars.withoutReturn_cases line.toList with hsame | hreturn
  · rw [← hsame, String.ofList_toList]
  · rw [hasTag, hasTag, String.toList_ofList]
    generalize Chars.withoutReturn line.toList = cs at hreturn
    rw [hreturn, Chars.after?_append_cons htag]
    cases Chars.after? tag.toList cs with
    | none => rfl
    | some behind => cases behind <;> rfl

/-- Lines that are joined and cut again carry a tag as often as before. -/
theorem countP_recut (hne : tag ≠ "") (htag : '\r' ∉ tag.toList) (ls : List String) :
    (Text.recut ls).countP (hasTag tag) = ls.countP (hasTag tag) := by
  induction ls with
  | nil => rfl
  | cons line rest ih =>
    cases rest with
    | nil =>
      rw [Text.recut]
      by_cases hempty : line.isEmpty = true
      · have hnot : hasTag tag "" = false := by
          obtain ⟨c, cs, hcs⟩ := List.exists_cons_of_ne_nil (String.toList_inj.ne.mpr hne)
          rw [hasTag, hcs]
          rfl
        rw [if_pos hempty, String.isEmpty_iff.mp hempty, List.countP_singleton, hnot]
        rfl
      · rw [if_neg hempty]
    | cons next rest =>
      rw [Text.recut, List.countP_cons, List.countP_cons, hasTag_withoutReturn htag, ih]

/-- No part of a line break is in an opening. -/
theorem Label.not_mem_opening (label : Label) (level : Nat) {c : Char}
    (hc : Chars.isBlank c = true) (hspace : c ≠ ' ') : c ∉ (label.opening level).toList := by
  intro hmem
  rw [toList_opening, Tree.opening] at hmem
  rcases List.mem_append.mp hmem with hmem | hmem
  · rw [isWord_toDigits level c hmem] at hc
    cases hc
  · rcases List.mem_cons.mp hmem with hmem | hmem
    · exact hspace hmem
    · rw [label.isWord c hmem] at hc
      cases hc

variable {level : Nat} {label : Label}

/-- The text of a run carries the tag as often as its lines do. -/
theorem IsRun.countTag_unlines {text : String} {n : Nat} {before run after : List String}
    (h : IsRun level (label.opening level) (Text.lines text) n before run after) :
    countTag (label.opening level) (Text.unlines run) =
      run.countP (hasTag (label.opening level)) := by
  have hsingle : ∀ line ∈ run, '\n' ∉ line.toList := by
    intro line hline
    have hmem : line ∈ Text.lines text := by
      rw [h.lines_eq]
      exact List.mem_append_left _ (List.mem_append_right _ hline)
    obtain ⟨cs, hcs, rfl⟩ := List.mem_map.mp hmem
    rw [String.toList_ofList]
    exact Chars.not_mem_of_mem_lines hcs
  rw [countTag, label.trim_opening, Text.lines_unlines_eq_recut hsingle,
    countP_recut (label.opening_ne level) (label.not_mem_opening level rfl (by decide))]

/-! ## Blocks -/

/-- A block is there or not, as there are enough lines with the tag or not. -/
theorem block_cases (level : Nat) (label : Label) (text : String) (n : Nat) :
    (countTag (label.opening level) text < n + 1 ∧
      block level (label.opening level) text (n + 1) = "") ∨
    (n + 1 ≤ countTag (label.opening level) text ∧
      block level (label.opening level) text (n + 1) ≠ "" ∧
      ∃ before run after,
        IsRun level (label.opening level) (Text.lines text) (n + 1) before run after ∧
        block level (label.opening level) text (n + 1) = Text.unlines run) := by
  have hcount : countTag (label.opening level) text =
      (Text.lines text).countP (hasTag (label.opening level)) := by
    rw [countTag, label.trim_opening]
  have hnone : blockLines? level (label.opening level) (n + 1) (Text.lines text) = none ↔
      countTag (label.opening level) text ≤ n := by
    rw [blockLines?, Option.map_eq_none_iff, fromTag_eq_none_iff, hcount]
  rw [block_eq (label.trim_opening level) (label.opening_ne level)]
  cases hfound : blockLines? level (label.opening level) (n + 1) (Text.lines text) with
  | none => exact .inl ⟨Nat.lt_succ_of_le (hnone.mp hfound), rfl⟩
  | some run =>
    right
    obtain ⟨before, after, hrun⟩ := isRun_of_blockLines? hfound
    obtain ⟨first, rest, rfl, hfirst, -⟩ := hrun.started
    obtain ⟨behind, hline, -⟩ := exists_opening_of_hasTag hfirst
    -- the first line starts with its level, so there are no blanks to be removed
    obtain ⟨htext, hne⟩ := trimStart_unlines (Tree.isNumbered_of_opening hline) rest
    refine ⟨?_, ?_, before, first :: rest, after, hrun, htext⟩
    · rw [← Nat.not_lt, Nat.lt_succ_iff, ← hnone, hfound]
      exact Option.some_ne_none _
    · show Text.trimStart (Text.unlines (first :: rest)) ≠ ""
      rw [htext]
      exact String.isEmpty_eq_false_iff.mp hne

/-- **The block with a number is the run with that number**, as long as so many lines
carry the tag; otherwise it is empty. Runs with different numbers have no line in common,
and follow each other in the order of their numbers. -/
theorem block_isRun {level : Nat} (hlevel : level < 18446744073709551616) (label : Label)
    (text : String) :
    (∀ n, 0 < n →
      (block level (label.opening level) text n = "" ↔
        countTag (label.opening level) text < n)) ∧
    (∀ n, 0 < n → ¬ countTag (label.opening level) text < n →
      ∃ before run after,
        IsRun level (label.opening level) (Text.lines text) n before run after ∧
        block level (label.opening level) text n = Text.unlines run ∧
        run.countP (hasTag (label.opening level)) = 1 ∧
        countTag (label.opening level) (block level (label.opening level) text n) = 1) ∧
    ∀ m n before run after before' run' after', m < n →
      IsRun level (label.opening level) (Text.lines text) m before run after →
      IsRun level (label.opening level) (Text.lines text) n before' run' after' →
      before ++ run <+: before' := by
  refine ⟨?_, ?_, ?_⟩
  · intro n hn
    obtain ⟨n, rfl⟩ := Nat.exists_eq_succ_of_ne_zero (Nat.ne_of_gt hn)
    rcases block_cases level label text n with ⟨hfew, hempty⟩ | ⟨henough, hne, -⟩
    · exact ⟨fun _ => hfew, fun _ => hempty⟩
    · exact ⟨fun hempty => absurd hempty hne, fun hfew => absurd henough (Nat.not_le.mpr hfew)⟩
  · intro n hn henough
    obtain ⟨n, rfl⟩ := Nat.exists_eq_succ_of_ne_zero (Nat.ne_of_gt hn)
    rcases block_cases level label text n with ⟨hfew, -⟩ | ⟨-, -, before, run, after, hrun, hblock⟩
    · exact absurd hfew henough
    · have hone := hrun.countP_run hlevel
      refine ⟨before, run, after, hrun, hblock, hone, ?_⟩
      rw [hblock, hrun.countTag_unlines, hone]
  · intro m n before run after before' run' after' hlt hrun hrun'
    exact hrun.prefix_of_lt hlevel hrun' hlt

/-- A record with two trades, the first of which a mark cuts off. -/
def twoTrades : String :=
  "0 @I1@ INDI\n1 OCCU Clerk\n2 PLAC Hull\nWT_1\n1 OCCUPATION\n1 OCCU Baker\n2 PLAC Ayr"

/-- The label of a trade. -/
def trade : Label where
  text := "OCCU"
  nonempty := by decide
  plain := rfl

theorem block_isRun_twoTrades :
    1 < 18446744073709551616 ∧
      block 1 (trade.opening 1) twoTrades 2 = "1 OCCU Baker\n2 PLAC Ayr" ∧
      ∃ before run after, IsRun 1 (trade.opening 1) (Text.lines twoTrades) 2 before run after ∧
        block 1 (trade.opening 1) twoTrades 2 = Text.unlines run ∧
        run.countP (hasTag (trade.opening 1)) = 1 ∧
        countTag (trade.opening 1) (block 1 (trade.opening 1) twoTrades 2) = 1 :=
  ⟨by decide, by decide +kernel,
    (block_isRun (by decide) trade twoTrades).2.1 2 (by decide) (by decide +kernel)⟩

end Lineage.Leveled
