import Lineage.Proofs.Record.Regular
import Lineage.Proofs.Text.Pieces
import Lineage.Record.Layout

/-!
# Splitting a file

The lines of a file are read once, with the block that is open kept aside. Errors are
found on the way, so an error is the first fault of the lines; without errors, the
blocks are the lines that are not blank, and they fall into blocks in one way only.
What is read from a block is a record exactly when the block starts with a header.

> `Record.splitFile_layout`: a file is split into its records or rejected at its first
> fault, and the records, joined again, are the same file.
-/

namespace Lineage

namespace Record

/-! ## Reading line by line -/

theorem lineLevel?_of_blank {line : String} (h : Text.isAllBlank line = true) :
    lineLevel? line = none := by
  rw [← Text.trimStart_isEmpty, String.isEmpty_iff] at h
  rw [lineLevel?, h]
  rfl

theorem notBlank_of_lineLevel? {line : String} {level : Nat} (h : lineLevel? line = some level) :
    Text.isAllBlank line = false := by
  cases hblank : Text.isAllBlank line with
  | false => rfl
  | true =>
    rw [lineLevel?_of_blank hblank] at h
    cases h

section

variable (number : Nat) (block : List String) {line : String} (rest : List String)

theorem gatherBlocks_blank (h : Text.isAllBlank line = true) :
    gatherBlocks number block (line :: rest) = gatherBlocks (number + 1) block rest := by
  rw [← Text.trimStart_isEmpty] at h
  exact if_pos h

theorem gatherBlocks_notBlank (h : Text.isAllBlank line = false) :
    gatherBlocks number block (line :: rest) =
      match lineLevel? line with
      | some 0 =>
        (gatherBlocks (number + 1) [Text.trimStart line] rest).map (gatherBlocks.close block ++ ·)
      | some _ =>
        if block.isEmpty then .error (.beforeFirstRecord number)
        else gatherBlocks (number + 1) (Text.trimStart line :: block) rest
      | none => .error (.noLevel number) := by
  have hne : ¬ (Text.trimStart line).isEmpty = true := by
    rw [Text.trimStart_isEmpty, h]
    exact Bool.false_ne_true
  exact if_neg hne

/-- **What one line does**: a blank line is passed over, a line of level 0 closes the block and
starts the next one, a line of another level goes to the block, if there is one, and all else
is an error. -/
theorem gatherBlocks_cases (line : String) (rest : List String) :
    Text.isAllBlank line = true ∧
        gatherBlocks number block (line :: rest) = gatherBlocks (number + 1) block rest ∨
      lineLevel? line = some 0 ∧
        gatherBlocks number block (line :: rest) =
          (gatherBlocks (number + 1) [Text.trimStart line] rest).map
            (gatherBlocks.close block ++ ·) ∨
      (∃ level, lineLevel? line = some level ∧ level ≠ 0) ∧
        (block ≠ [] ∧
            gatherBlocks number block (line :: rest) =
              gatherBlocks (number + 1) (Text.trimStart line :: block) rest ∨
          block = [] ∧
            gatherBlocks number block (line :: rest) = .error (.beforeFirstRecord number)) ∨
      Text.isAllBlank line = false ∧ lineLevel? line = none ∧
        gatherBlocks number block (line :: rest) = .error (.noLevel number) := by
  cases hblank : Text.isAllBlank line with
  | true => exact .inl ⟨rfl, gatherBlocks_blank number block rest hblank⟩
  | false =>
    rw [gatherBlocks_notBlank number block rest hblank]
    cases hlevel : lineLevel? line with
    | none => exact .inr (.inr (.inr ⟨rfl, rfl, rfl⟩))
    | some level =>
      cases level with
      | zero => exact .inr (.inl ⟨rfl, rfl⟩)
      | succ level =>
        refine .inr (.inr (.inl ⟨⟨level + 1, rfl, Nat.succ_ne_zero level⟩, ?_⟩))
        cases block with
        | nil => exact .inr ⟨rfl, rfl⟩
        | cons last others => exact .inl ⟨List.cons_ne_nil _ _, rfl⟩

end

/-! ## Faults -/

section

variable {before rest : List String} {line : String} {e : FileError}

/-- A fault of the line behind the lines that have been read. -/
theorem fault_cases (h : Fault (before ++ line :: rest) before.length e) :
    Text.isAllBlank line = false ∧ lineLevel? line = none ∧ e = .noLevel (before.length + 1) ∨
      (∃ level, lineLevel? line = some level ∧ level ≠ 0) ∧
        (∀ earlier ∈ before, lineLevel? earlier ≠ some 0) ∧
        e = .beforeFirstRecord (before.length + 1) := by
  cases h with
  | noLevel found notBlank noLevel =>
    rw [List.getElem?_append_right (Nat.le_refl _), Nat.sub_self] at found
    cases found
    exact .inl ⟨notBlank, noLevel, rfl⟩
  | beforeFirstRecord found hasLevel notZero first =>
    rw [List.getElem?_append_right (Nat.le_refl _), Nat.sub_self] at found
    cases found
    rw [List.take_left' rfl] at first
    exact .inr ⟨⟨_, hasLevel, notZero⟩, first, rfl⟩

theorem not_fault_of_blank (h : Text.isAllBlank line = true) :
    ¬ Fault (before ++ line :: rest) before.length e := by
  intro hfault
  rcases fault_cases hfault with ⟨hnot, -⟩ | ⟨⟨level, hlevel, -⟩, -⟩
  · rw [h] at hnot
    cases hnot
  · rw [lineLevel?_of_blank h] at hlevel
    cases hlevel

/-- A line with a level is not at fault if the level is 0 or a line before has level 0. -/
theorem not_fault_of_level {level : Nat} (h : lineLevel? line = some level)
    (hzero : level = 0 ∨ ∃ earlier ∈ before, lineLevel? earlier = some 0) :
    ¬ Fault (before ++ line :: rest) before.length e := by
  intro hfault
  rcases fault_cases hfault with ⟨-, hnone, -⟩ | ⟨⟨other, hother, hpos⟩, hall, -⟩
  · rw [h] at hnone
    cases hnone
  · rcases hzero with rfl | ⟨earlier, hearlier, hlevel⟩
    · rw [h, Option.some.injEq] at hother
      exact hpos hother.symm
    · exact hall earlier hearlier hlevel

/-- The first fault at an index or behind it. -/
def FirstFaultFrom (start : Nat) (lines : List String) (e : FileError) : Prop :=
  ∃ index, start ≤ index ∧ Fault lines index e ∧
    ∀ earlier, start ≤ earlier → earlier < index → ∀ other, ¬ Fault lines earlier other

/-- A fault of the next line comes first. -/
theorem FirstFaultFrom.here (h : Fault (before ++ line :: rest) before.length e) :
    FirstFaultFrom before.length (before ++ line :: rest) e := by
  refine ⟨before.length, Nat.le_refl _, h, fun earlier hle hlt => ?_⟩
  omega

/-- A line that is not at fault does not change which fault comes first. -/
theorem FirstFaultFrom.of_next
    (h : FirstFaultFrom (before ++ [line]).length (before ++ [line] ++ rest) e)
    (hline : ∀ other, ¬ Fault (before ++ line :: rest) before.length other) :
    FirstFaultFrom before.length (before ++ line :: rest) e := by
  obtain ⟨index, hle, hfault, hfirst⟩ := h
  rw [List.length_append, List.length_singleton] at hle hfirst
  rw [List.append_assoc, List.singleton_append] at hfault hfirst
  refine ⟨index, Nat.le_of_succ_le hle, hfault, fun earlier hstart hlt other => ?_⟩
  rcases Nat.eq_or_lt_of_le hstart with rfl | hstart
  · exact hline other
  · exact hfirst earlier hstart hlt other

/-- **An error is the first fault** behind the lines that have been read. No block is open as
long as none of these lines has level 0. -/
theorem firstFault_of_gatherBlocks {number : Nat} {block : List String}
    (hnumber : number = before.length + 1)
    (hopen : block = [] ↔ ∀ l ∈ before, lineLevel? l ≠ some 0)
    (h : gatherBlocks number block rest = .error e) :
    FirstFaultFrom before.length (before ++ rest) e := by
  induction rest generalizing number before block e with
  | nil => cases h
  | cons line rest ih =>
    have hnext : number + 1 = (before ++ [line]).length + 1 := by
      rw [hnumber, List.length_append, List.length_singleton]
    have hfound : (before ++ line :: rest)[before.length]? = some line := by
      rw [List.getElem?_append_right (Nat.le_refl _), Nat.sub_self]
      rfl
    rcases gatherBlocks_cases number block line rest with
      ⟨hblank, hstep⟩ | ⟨hzero, hstep⟩ |
      ⟨⟨level, hlevel, hpos⟩, ⟨hblock, hstep⟩ | ⟨hblock, hstep⟩⟩ | ⟨hblank, hnone, hstep⟩
    · rw [hstep] at h
      refine (ih hnext ?_ h).of_next fun other => not_fault_of_blank hblank
      -- a blank line has no level, so the block is as open as before
      rw [hopen, List.forall_mem_append, List.forall_mem_singleton, lineLevel?_of_blank hblank]
      simp
    · cases hlater : gatherBlocks (number + 1) [Text.trimStart line] rest with
      | ok blocks =>
        rw [hstep, hlater] at h
        cases h
      | error e' =>
        rw [hstep, hlater] at h
        cases h
        refine (ih hnext ?_ hlater).of_next fun other => not_fault_of_level hzero (.inl rfl)
        rw [List.forall_mem_append, List.forall_mem_singleton]
        simp [hzero]
    · -- a block is open, so it has been started by a line of level 0
      have hbefore : ∃ l ∈ before, lineLevel? l = some 0 := by
        by_contra hnone
        push Not at hnone
        exact hblock (hopen.mpr hnone)
      rw [hstep] at h
      refine (ih hnext ?_ h).of_next fun other => not_fault_of_level hlevel (.inr hbefore)
      obtain ⟨earlier, hearlier, hzero⟩ := hbefore
      refine ⟨nofun, fun hall => absurd hzero (hall earlier (List.mem_append_left _ hearlier))⟩
    · rw [hstep, hnumber] at h
      cases h
      refine .here (.beforeFirstRecord hfound hlevel hpos ?_)
      rw [List.take_left' rfl]
      exact hopen.mp hblock
    · rw [hstep, hnumber] at h
      cases h
      exact .here (.noLevel hfound hblank hnone)

theorem FirstFault.ne_empty {lines : List String} (h : FirstFault lines e) : e ≠ .empty := by
  obtain ⟨index, hfault, -⟩ := h
  cases hfault <;> exact nofun

/-- The first fault is one. -/
theorem FirstFault.unique {lines : List String} {other : FileError} (h : FirstFault lines e)
    (h' : FirstFault lines other) : e = other := by
  obtain ⟨index, hfault, hfirst⟩ := h
  obtain ⟨index', hfault', hfirst'⟩ := h'
  rcases Nat.lt_trichotomy index index' with hlt | rfl | hlt
  · exact absurd hfault (hfirst' index hlt e)
  · cases hfault <;> cases hfault'
    all_goals simp_all
  · exact absurd hfault' (hfirst index' hlt other)

end

/-! ## Blocks -/

theorem leveledLines_cons (line : String) (rest : List String) :
    leveledLines (line :: rest) =
      if Text.isAllBlank line then leveledLines rest
      else Text.trimStart line :: leveledLines rest := by
  cases hblank : Text.isAllBlank line <;> simp [leveledLines, hblank]

/-- A block may be longer by a line of another level than 0. -/
theorem IsBlock.append {block : List String} (h : IsBlock block) {line : String} {level : Nat}
    (hlevel : Leveled.level? line = some level) (hpos : level ≠ 0) : IsBlock (block ++ [line]) := by
  obtain ⟨first, rest, rfl, hfirst, hrest⟩ := h
  refine ⟨first, rest ++ [line], rfl, hfirst, ?_⟩
  rw [List.forall_mem_append, List.forall_mem_singleton]
  exact ⟨hrest, level, hlevel, hpos⟩

theorem flatten_close (block : List String) :
    (gatherBlocks.close block).flatten = block.reverse := by
  cases block with
  | nil => rfl
  | cons last others => simp [gatherBlocks.close]

/-- **What is gathered are blocks with all the lines**, those of the block that is being read
and those that are still to be read. -/
theorem partition_of_gatherBlocks {number : Nat} {block rest : List String}
    {blocks : List (List String)} (hblock : block = [] ∨ IsBlock block.reverse)
    (h : gatherBlocks number block rest = .ok blocks) :
    blocks.flatten = block.reverse ++ leveledLines rest ∧ ∀ b ∈ blocks, IsBlock b := by
  have hclose : ∀ b ∈ gatherBlocks.close block, IsBlock b := by
    intro b hb
    rcases hblock with rfl | hblock
    · cases hb
    · unfold gatherBlocks.close at hb
      split at hb
      · cases hb
      · rw [List.mem_singleton] at hb
        exact hb ▸ hblock
  induction rest generalizing number block blocks with
  | nil =>
    cases h
    exact ⟨by rw [flatten_close]; simp [leveledLines], hclose⟩
  | cons line rest ih =>
    rcases gatherBlocks_cases number block line rest with
      ⟨hblank, hstep⟩ | ⟨hzero, hstep⟩ | ⟨⟨level, hlevel, hpos⟩, ⟨hne, hstep⟩ | ⟨-, hstep⟩⟩ |
      ⟨-, -, hstep⟩
    · rw [hstep] at h
      rw [leveledLines_cons, if_pos hblank]
      exact ih hblock h hclose
    · -- the block is finished, and the line starts the next one
      have hstart : IsBlock [Text.trimStart line].reverse :=
        ⟨Text.trimStart line, [], rfl, hzero, fun l hl => absurd hl List.not_mem_nil⟩
      cases hlater : gatherBlocks (number + 1) [Text.trimStart line] rest with
      | error e =>
        rw [hstep, hlater] at h
        cases h
      | ok later =>
        rw [hstep, hlater] at h
        cases h
        have hclosed : ∀ b ∈ gatherBlocks.close [Text.trimStart line], IsBlock b := by
          simpa [gatherBlocks.close] using hstart
        obtain ⟨hlines, hsound⟩ := ih (.inr hstart) hlater hclosed
        refine ⟨?_, List.forall_mem_append.mpr ⟨hclose, hsound⟩⟩
        rw [List.flatten_append, flatten_close, hlines, leveledLines_cons,
          if_neg (by simp [notBlank_of_lineLevel? hzero])]
        rfl
    · have hlonger : IsBlock (Text.trimStart line :: block).reverse := by
        rw [List.reverse_cons]
        exact (hblock.resolve_left hne).append hlevel hpos
      rw [hstep] at h
      obtain ⟨hlines, hsound⟩ := ih (.inr hlonger) h (by simpa [gatherBlocks.close] using hlonger)
      refine ⟨?_, hsound⟩
      rw [hlines, List.reverse_cons, leveledLines_cons,
        if_neg (by simp [notBlank_of_lineLevel? hlevel]), List.append_assoc, List.singleton_append]
    · rw [hstep] at h
      cases h
    · rw [hstep] at h
      cases h

/-- The lines of a block behind the first go up to the next block. -/
theorem takeWhile_flatten {rest : List String} {blocks : List (List String)}
    (hrest : ∀ line ∈ rest, ∃ level, Leveled.level? line = some level ∧ level ≠ 0)
    (h : ∀ b ∈ blocks, IsBlock b) :
    (rest ++ blocks.flatten).takeWhile (Leveled.level? · != some 0) = rest := by
  refine Text.takeWhile_append_flatten ?_ ?_
  · intro line hline
    obtain ⟨level, hlevel, hpos⟩ := hrest line hline
    simp [hlevel, hpos]
  · intro block hblock
    obtain ⟨first, others, hlines, hfirst, -⟩ := h block hblock
    exact ⟨first, others, hlines, by simp [hfirst]⟩

/-- **Lines fall into blocks in one way only.** -/
theorem eq_of_flatten_eq {blocks others : List (List String)} (h : ∀ b ∈ blocks, IsBlock b)
    (h' : ∀ b ∈ others, IsBlock b) (heq : blocks.flatten = others.flatten) : blocks = others := by
  induction blocks generalizing others with
  | nil =>
    cases others with
    | nil => rfl
    | cons other more =>
      obtain ⟨first, rest, rfl, -⟩ := h' other List.mem_cons_self
      cases heq
  | cons block blocks ih =>
    obtain ⟨first, rest, rfl, -, hrest⟩ := h block List.mem_cons_self
    cases others with
    | nil => cases heq
    | cons other more =>
      obtain ⟨first', rest', rfl, -, hrest'⟩ := h' other List.mem_cons_self
      have hlater : ∀ b ∈ blocks, IsBlock b := fun b hb => h b (List.mem_cons_of_mem _ hb)
      have hmore : ∀ b ∈ more, IsBlock b := fun b hb => h' b (List.mem_cons_of_mem _ hb)
      rw [List.flatten_cons, List.flatten_cons, List.cons_append, List.cons_append,
        List.cons.injEq] at heq
      obtain ⟨rfl, heq⟩ := heq
      have hsame : rest = rest' := by
        rw [← takeWhile_flatten hrest hlater, heq, takeWhile_flatten hrest' hmore]
      subst hsame
      rw [ih hlater hmore (List.append_cancel_left heq)]

/-- The lines that a file has in its blocks all have levels. -/
theorem lineLevel?_of_partition {lines : List String} {blocks : List (List String)}
    (h : IsPartition lines blocks) {line : String} (hline : line ∈ lines)
    (hblank : Text.isAllBlank line = false) : ∃ level, lineLevel? line = some level := by
  have hmem : Text.trimStart line ∈ blocks.flatten := by
    rw [h.lines_eq, leveledLines]
    exact List.mem_map_of_mem (List.mem_filter.mpr ⟨hline, by simp [hblank]⟩)
  obtain ⟨block, hblock, hmem⟩ := List.mem_flatten.mp hmem
  obtain ⟨first, rest, rfl, hfirst, hrest⟩ := h.sound block hblock
  rcases List.mem_cons.mp hmem with heq | hmem
  · exact ⟨0, by rw [lineLevel?, heq, hfirst]⟩
  · obtain ⟨level, hlevel, -⟩ := hrest _ hmem
    exact ⟨level, hlevel⟩

/-- **No line of a file is at fault whose lines fall into blocks.** -/
theorem not_fault_of_partition {lines : List String} {blocks : List (List String)}
    (h : IsPartition lines blocks) (index : Nat) (e : FileError) : ¬ Fault lines index e := by
  rintro (⟨found, notBlank, noLevel⟩ | @⟨line, level, found, hasLevel, notZero, first⟩)
  · obtain ⟨level, hlevel⟩ := lineLevel?_of_partition h (List.mem_of_getElem? found) notBlank
    rw [hlevel] at noLevel
    cases noLevel
  · obtain ⟨hlt, hline⟩ := List.getElem?_eq_some_iff.mp found
    have hsplit : lines = lines.take index ++ line :: lines.drop (index + 1) := by
      rw [← hline, ← List.drop_eq_getElem_cons hlt, List.take_append_drop]
    have hleveled : blocks.flatten = leveledLines (lines.take index) ++
        Text.trimStart line :: leveledLines (lines.drop (index + 1)) := by
      rw [h.lines_eq]
      conv_lhs => rw [hsplit]
      rw [leveledLines, List.filter_append, List.map_append]
      simp [leveledLines, notBlank_of_lineLevel? hasLevel]
    -- the first line in the blocks has level 0, but neither this one has nor any before it
    cases blocks with
    | nil => simp at hleveled
    | cons block more =>
      obtain ⟨zero, rest, rfl, hzero, -⟩ := h.sound block List.mem_cons_self
      cases hbefore : leveledLines (lines.take index) with
      | nil =>
        rw [hbefore] at hleveled
        rw [lineLevel?, ← (List.cons.inj hleveled).1, hzero] at hasLevel
        exact notZero (Option.some.inj hasLevel).symm
      | cons early later =>
        rw [hbefore] at hleveled
        have hearly : early ∈ leveledLines (lines.take index) := by
          rw [hbefore]
          exact List.mem_cons_self
        obtain ⟨earlier, hmem, htrim⟩ := List.mem_map.mp hearly
        refine first earlier (List.mem_of_mem_filter hmem) ?_
        rw [lineLevel?, htrim, ← (List.cons.inj hleveled).1, hzero]

/-! ## Headers -/

/-- A line of a file as the blocks have it: a single line that starts with its level. -/
structure IsLeveled (line : String) : Prop where
  isLine : Text.IsLine line
  trimmed : Text.trimStart line = line

theorem IsLeveled.startsPlain {line : String} (h : IsLeveled line) :
    Chars.StartsPlain line.toList := by
  rw [← h.trimmed]
  exact Text.startsPlain_trimStart line

theorem IsLeveled.notBlank {line : String} (h : IsLeveled line) : Text.isAllBlank line = false := by
  rw [← Text.trimStart_isEmpty, h.trimmed, String.isEmpty_eq_false_iff]
  rintro rfl
  exact h.isLine.ends.ne_nil rfl

theorem headerXref?_eq_some_iff {s first xref : String}
    (hfirst : (Text.lines (Text.trimStart s)).head? = some first) :
    Leveled.headerXref? s = some xref ↔
      (∃ rest, first = "0 @" ++ xref ++ "@" ++ rest) ∧ xref ≠ "" ∧ '@' ∉ xref.toList := by
  rw [Leveled.headerXref?, hfirst]
  simp only [Option.bind_eq_bind, Option.bind_some, Option.bind_eq_some_iff,
    Text.after?_eq_some_iff]
  constructor
  · rintro ⟨rest, rfl, ⟨found, behind⟩, hcut, hxref⟩
    obtain ⟨hrest, hclosed⟩ := Chars.cut?_eq_some_iff.mp hcut
    split at hxref
    · cases hxref
    next hne =>
      cases hxref
      refine ⟨⟨String.ofList behind, ?_⟩, ?_, by rwa [String.toList_ofList]⟩
      · rw [← String.toList_inj]
        simp [hrest]
      · rintro heq
        rw [← String.toList_inj, String.toList_ofList] at heq
        rw [heq] at hne
        exact hne rfl
  · rintro ⟨⟨rest, rfl⟩, hne, hclosed⟩
    refine ⟨xref ++ "@" ++ rest, by simp only [String.append_assoc], ⟨xref.toList, rest.toList⟩,
      Chars.cut?_eq_some_iff.mpr ⟨by simp, hclosed⟩, ?_⟩
    have hempty : xref.toList.isEmpty = false := by
      rw [List.isEmpty_eq_false_iff]
      exact fun hnil => hne (String.toList_inj.mp hnil)
    rw [hempty, if_neg Bool.false_ne_true, String.ofList_toList]

/-- **A block is read as a record exactly when it is one.** -/
theorem parse?_eq_some_iff {block : List String} (hlines : ∀ line ∈ block, IsLeveled line)
    (record : Record) : parse? (Text.unlines block) = some record ↔ IsRecord block record := by
  cases block with
  | nil =>
    constructor
    · intro h
      cases h
    · rintro ⟨⟨first, rest, kind, hblock, -⟩, -⟩
      cases hblock
  | cons first rest =>
    have hline : IsLeveled first := hlines first List.mem_cons_self
    have hends : Text.EndsPlain (Text.unlines (first :: rest)) :=
      Text.endsPlain_unlines (List.cons_ne_nil _ _) fun line h => (hlines line h).isLine.ends
    have hfound : Text.lines (Text.unlines (first :: rest)) = first :: rest :=
      Text.lines_unlines_of_isLine fun line h => (hlines line h).isLine
    have hstarts : Chars.StartsPlain (Text.unlines (first :: rest)).toList := by
      have hown : (Text.lines first).head? = some first := by
        rw [hline.isLine.lines_eq, List.head?_cons]
      exact Text.startsPlain_congr hline.startsPlain hown (by rw [hfound, List.head?_cons])
    have hheader : (Text.lines (Text.trimStart (Text.unlines (first :: rest)))).head? =
        some first := by
      rw [Text.head?_lines_trimStart (by rw [hfound, List.head?_cons]) hline.notBlank,
        hline.trimmed]
    rw [parse?_of_plain hstarts hends, hfound, List.head?_cons]
    simp only [Option.bind_eq_bind, Option.bind_some, Option.bind_eq_some_iff,
      headerXref?_eq_some_iff hheader, Option.some.injEq]
    constructor
    · rintro ⟨xref, ⟨hopening, hne, hclosed⟩, kind, hkind, rfl⟩
      exact ⟨⟨first, rest, kind, rfl, ⟨hopening, hne, hclosed, hkind⟩, rfl⟩, rfl⟩
    · rintro ⟨⟨first', rest', kind, hblock, hheader, hkind⟩, htext⟩
      cases hblock
      refine ⟨record.xref, ⟨hheader.opening, hheader.nonempty, hheader.closed⟩, kind,
        hheader.third, ?_⟩
      rw [← hkind, ← htext]

/-- The records among blocks are those that are read from them. -/
theorem recordsOf_iff {blocks : List (List String)}
    (hlines : ∀ block ∈ blocks, ∀ line ∈ block, IsLeveled line) (records : List Record) :
    RecordsOf blocks records ↔
      records = blocks.filterMap fun block => parse? (Text.unlines block) := by
  induction blocks generalizing records with
  | nil =>
    constructor
    · rintro ⟨⟩
      rfl
    · rintro rfl
      exact .nil
  | cons block blocks ih =>
    have hblock := hlines block List.mem_cons_self
    have hlater := ih fun b hb => hlines b (List.mem_cons_of_mem _ hb)
    cases hread : parse? (Text.unlines block) with
    | none =>
      have hnone (record : Record) : ¬ IsRecord block record := by
        rw [← parse?_eq_some_iff hblock, hread]
        exact nofun
      rw [List.filterMap_cons_none (f := fun block => parse? (Text.unlines block)) hread, ← hlater]
      constructor
      · rintro (_ | ⟨h, later⟩ | ⟨h, later⟩)
        · exact absurd h (hnone _)
        · exact later
      · exact .other hnone
    | some record =>
      have hrecord : IsRecord block record := (parse?_eq_some_iff hblock record).mp hread
      rw [List.filterMap_cons_some (f := fun block => parse? (Text.unlines block)) hread]
      constructor
      · rintro (_ | ⟨h, later⟩ | ⟨h, later⟩)
        · have hsame := (parse?_eq_some_iff hblock _).mpr h
          rw [hread, Option.some.injEq] at hsame
          rw [hsame, (hlater _).mp later]
        · exact absurd hrecord (h record)
      · rintro rfl
        exact .record hrecord ((hlater _).mpr rfl)

/-- The blocks that are records, with the records that they are. -/
theorem RecordsOf.exists_blocks {blocks : List (List String)} {records : List Record}
    (h : RecordsOf blocks records) :
    ∃ kept, kept.Sublist blocks ∧ List.Forall₂ IsRecord kept records := by
  induction h with
  | nil => exact ⟨[], .slnil, .nil⟩
  | record h _ ih =>
    obtain ⟨kept, hkept, hrecords⟩ := ih
    exact ⟨_ :: kept, hkept.cons_cons _, .cons h hrecords⟩
  | other _ _ ih =>
    obtain ⟨kept, hkept, hrecords⟩ := ih
    exact ⟨kept, hkept.cons _, hrecords⟩

theorem recordsOf_of_forall₂ {blocks : List (List String)} {records : List Record}
    (h : List.Forall₂ IsRecord blocks records) : RecordsOf blocks records := by
  induction h with
  | nil => exact .nil
  | cons h _ ih => exact .record h ih

/-! ## Files -/

/-- The lines of a file, in its blocks, are single lines that start with their level. -/
theorem isLeveled_of_mem {text : String}
    (hreturn : ∀ line ∈ Text.lines text, line.toList.getLast? ≠ some '\r') {line : String}
    (hline : line ∈ leveledLines (Text.lines text)) : IsLeveled line := by
  obtain ⟨whole, hwhole, rfl⟩ := List.mem_map.mp hline
  obtain ⟨hmem, hblank⟩ := List.mem_filter.mp hwhole
  refine ⟨Text.isLine_trimStart hmem (hreturn whole hmem) fun hempty => ?_,
    Text.trimStart_trimStart whole⟩
  rw [← String.isEmpty_iff, Text.trimStart_isEmpty] at hempty
  rw [hempty] at hblank
  cases hblank

/-- The lines of a blank text are blank. -/
theorem isAllBlank_of_mem_lines {text line : String} (h : Text.isAllBlank text = true)
    (hline : line ∈ Text.lines text) : Text.isAllBlank line = true := by
  obtain ⟨cs, hcs, rfl⟩ := List.mem_map.mp hline
  rw [Text.isAllBlank, List.all_eq_true] at h ⊢
  rw [String.toList_ofList]
  exact fun c hc => h c (Chars.mem_of_mem_lines hcs hc)

/-- The end of a blank file is reached without a fault. -/
theorem not_firstFault_of_blank {text : String} {e : FileError}
    (h : Text.isAllBlank (dropByteOrderMarks text) = true) : ¬ FirstFault (fileLines text) e := by
  rintro ⟨index, ⟨found, notBlank, -⟩ | ⟨found, hasLevel, -, -⟩, -⟩
  · rw [isAllBlank_of_mem_lines h (List.mem_of_getElem? found)] at notBlank
    cases notBlank
  · rw [lineLevel?_of_blank (isAllBlank_of_mem_lines h (List.mem_of_getElem? found))] at hasLevel
    cases hasLevel

theorem splitFile_of_blank {text : String}
    (h : Text.isAllBlank (dropByteOrderMarks text) = true) : splitFile text = .error .empty := by
  rw [splitFile, if_pos h]
  rfl

theorem splitFile_of_notBlank {text : String}
    (h : Text.isAllBlank (dropByteOrderMarks text) = false) :
    splitFile text = (gatherBlocks 1 [] (fileLines text)).map
      (·.filterMap fun block => parse? (Text.unlines block)) := by
  rw [splitFile, if_neg (by rw [h]; exact Bool.false_ne_true), fileLines]
  generalize gatherBlocks 1 [] (Text.lines (dropByteOrderMarks text)) = read
  cases read <;> rfl

/-- **A file is rejected or split**: a blank one is empty, one with a fault is rejected at the
first fault, and the lines of all others fall into blocks, among which the records are. -/
theorem splitFile_cases {text : String}
    (hreturn : ∀ line ∈ fileLines text, line.toList.getLast? ≠ some '\r') :
    Text.isAllBlank (dropByteOrderMarks text) = true ∧ splitFile text = .error .empty ∨
      Text.isAllBlank (dropByteOrderMarks text) = false ∧
        ((∃ e, FirstFault (fileLines text) e ∧ splitFile text = .error e) ∨
          ∃ blocks records, IsPartition (fileLines text) blocks ∧ RecordsOf blocks records ∧
            splitFile text = .ok records) := by
  cases hblank : Text.isAllBlank (dropByteOrderMarks text) with
  | true => exact .inl ⟨rfl, splitFile_of_blank hblank⟩
  | false =>
    refine .inr ⟨rfl, ?_⟩
    rw [splitFile_of_notBlank hblank]
    cases hread : gatherBlocks 1 [] (fileLines text) with
    | error e =>
      have hopen : ([] : List String) = [] ↔ ∀ l ∈ ([] : List String), lineLevel? l ≠ some 0 := by
        simp
      have hfrom := @firstFault_of_gatherBlocks [] (fileLines text) e 1 [] rfl hopen hread
      rw [List.nil_append] at hfrom
      obtain ⟨index, -, hfault, hfirst⟩ := hfrom
      exact .inl ⟨e, ⟨index, hfault, fun earlier => hfirst earlier (Nat.zero_le _)⟩, rfl⟩
    | ok blocks =>
      obtain ⟨hlines, hsound⟩ := partition_of_gatherBlocks (.inl rfl) hread
      rw [List.reverse_nil, List.nil_append] at hlines
      refine .inr ⟨blocks, _, ⟨hlines, hsound⟩, (recordsOf_iff ?_ _).mpr rfl, rfl⟩
      intro block hblock line hline
      exact isLeveled_of_mem hreturn (hlines ▸ List.mem_flatten_of_mem hblock hline)

/-- The records of a file are those among the blocks that its lines fall into. -/
theorem splitFile_eq_ok_iff {text : String}
    (hreturn : ∀ line ∈ fileLines text, line.toList.getLast? ≠ some '\r')
    (records : List Record) :
    splitFile text = .ok records ↔ Text.isAllBlank (dropByteOrderMarks text) = false ∧
      ∃ blocks, IsPartition (fileLines text) blocks ∧ RecordsOf blocks records := by
  constructor
  · intro h
    rcases splitFile_cases hreturn with ⟨-, hempty⟩ | ⟨hblank, ⟨e, -, herror⟩ |
      ⟨blocks, found, hpartition, hfound, hok⟩⟩
    · rw [h] at hempty
      cases hempty
    · rw [h] at herror
      cases herror
    · rw [h] at hok
      cases hok
      exact ⟨hblank, blocks, hpartition, hfound⟩
  · rintro ⟨hblank, blocks, hpartition, hrecords⟩
    rcases splitFile_cases hreturn with ⟨hempty, -⟩ | ⟨-, ⟨e, ⟨index, hfault, -⟩, -⟩ |
      ⟨others, found, hothers, hfound, hok⟩⟩
    · rw [hblank] at hempty
      cases hempty
    · exact absurd hfault (not_fault_of_partition hpartition index e)
    · -- there is no other way to take the lines apart
      have hsame : others = blocks := by
        refine eq_of_flatten_eq hothers.sound hpartition.sound ?_
        rw [hothers.lines_eq, hpartition.lines_eq]
      subst hsame
      have hleveled : ∀ block ∈ others, ∀ line ∈ block, IsLeveled line := by
        intro block hblock line hline
        exact isLeveled_of_mem hreturn (hothers.lines_eq ▸ List.mem_flatten_of_mem hblock hline)
      rw [hok, (recordsOf_iff hleveled _).mp hfound, (recordsOf_iff hleveled _).mp hrecords]

/-! ## Records that are joined -/

/-- Lines that are as blocks have them stay as they are. -/
theorem leveledLines_eq_self {lines : List String} (h : ∀ line ∈ lines, IsLeveled line) :
    leveledLines lines = lines := by
  induction lines with
  | nil => rfl
  | cons line rest ih =>
    have hline := h line List.mem_cons_self
    rw [leveledLines_cons, if_neg (by rw [hline.notBlank]; exact Bool.false_ne_true),
      hline.trimmed, ih fun l hl => h l (List.mem_cons_of_mem _ hl)]

/-- The texts of records are their blocks. -/
theorem map_text_of_forall₂ {blocks : List (List String)} {records : List Record}
    (h : List.Forall₂ IsRecord blocks records) :
    records.map Record.text = blocks.map Text.unlines := by
  induction h with
  | nil => rfl
  | cons h _ ih => rw [List.map_cons, List.map_cons, h.text, ih]

/-- The lines of blocks that are joined are the lines of the blocks. -/
theorem lines_unlines_map_unlines {blocks : List (List String)} (hne : ∀ block ∈ blocks, block ≠ [])
    (hlines : ∀ block ∈ blocks, ∀ line ∈ block, Text.IsLine line) :
    Text.lines (Text.unlines (blocks.map Text.unlines)) = blocks.flatten := by
  have hends : ∀ text ∈ blocks.map Text.unlines, Text.EndsPlain text := by
    intro text htext
    obtain ⟨block, hblock, rfl⟩ := List.mem_map.mp htext
    exact Text.endsPlain_unlines (hne block hblock) fun line hline =>
      (hlines block hblock line hline).ends
  rw [Text.lines_unlines hends, List.flatMap_map, List.flatten_eq_flatMap]
  exact List.flatMap_congr fun block hblock => Text.lines_unlines_of_isLine (hlines block hblock)

theorem dropByteOrderMarks_of_header {text first : String} {more : List String}
    (hlines : Text.lines text = first :: more) (hzero : first.toList.head? = some '0') :
    dropByteOrderMarks text = text := by
  have hfirst : (Chars.lines text.toList).head? = some first.toList := by
    have h := Text.head?_lines text
    rw [hlines, List.head?_cons, eq_comm, Option.map_eq_some_iff] at h
    obtain ⟨cs, hcs, rfl⟩ := h
    rw [hcs, String.toList_ofList]
  have hhead : text.toList.head? = some '0' := Chars.head?_of_head?_lines hfirst hzero
  rw [dropByteOrderMarks]
  cases hcs : text.toList with
  | nil =>
    rw [hcs] at hhead
    cases hhead
  | cons c rest =>
    rw [hcs] at hhead
    cases hhead
    rw [List.dropWhile_cons_of_neg (by decide), ← hcs, String.ofList_toList]

/-- **Records that are joined are found again.** -/
theorem splitFile_unlines {blocks : List (List String)} {records : List Record}
    (hne : records ≠ []) (hblocks : ∀ block ∈ blocks, IsBlock block)
    (hlines : ∀ block ∈ blocks, ∀ line ∈ block, IsLeveled line)
    (hrecords : List.Forall₂ IsRecord blocks records) :
    splitFile (Text.unlines (records.map Record.text)) = .ok records := by
  have hlines' : ∀ line ∈ blocks.flatten, IsLeveled line := by
    intro line hline
    obtain ⟨block, hblock, hline⟩ := List.mem_flatten.mp hline
    exact hlines block hblock line hline
  have hfound : Text.lines (Text.unlines (records.map Record.text)) = blocks.flatten := by
    rw [map_text_of_forall₂ hrecords]
    refine lines_unlines_map_unlines ?_ fun block hblock line hline =>
      (hlines block hblock line hline).isLine
    rintro block hblock rfl
    obtain ⟨first, rest, hnil, -⟩ := hblocks [] hblock
    cases hnil
  -- the text starts with the header of the first record
  obtain ⟨first, more, hflat, hzero⟩ :
      ∃ first more, blocks.flatten = first :: more ∧ first.toList.head? = some '0' := by
    cases hrecords with
    | nil => exact absurd rfl hne
    | @cons block record blocks records hrecord _ =>
      obtain ⟨first, rest, kind, rfl, ⟨⟨behind, hopening⟩, -⟩, -⟩ := hrecord.header
      refine ⟨first, rest ++ blocks.flatten, rfl, ?_⟩
      rw [hopening]
      simp
  have hmarks := dropByteOrderMarks_of_header (hfound.trans hflat) hzero
  have hfile : fileLines (Text.unlines (records.map Record.text)) = blocks.flatten := by
    rw [fileLines, hmarks, hfound]
  rw [splitFile_eq_ok_iff, hfile]
  · refine ⟨?_, blocks, ⟨(leveledLines_eq_self hlines').symm, hblocks⟩,
      recordsOf_of_forall₂ hrecords⟩
    rw [hmarks]
    cases hblank : Text.isAllBlank (Text.unlines (records.map Record.text)) with
    | false => rfl
    | true =>
      have hmem : first ∈ blocks.flatten := hflat ▸ List.mem_cons_self
      rw [← isAllBlank_of_mem_lines hblank (hfound ▸ hmem), (hlines' first hmem).notBlank]
  · intro line hline
    rw [hfile] at hline
    obtain ⟨c, hc, -, hreturn⟩ := (hlines' line hline).isLine.ends
    rw [hc]
    exact fun h => hreturn (Option.some.inj h)

/-- **The layout of a file.** A file without carriage returns is empty when only blanks
follow its byte order marks. If not, it is rejected at its first fault, if it has one. Without
a fault, its lines fall into blocks, and its records are those among the blocks. These
records, joined by line breaks, are a file with the same records. -/
theorem splitFile_layout {text : String} (hreturn : '\r' ∉ text.toList) :
    (splitFile text = .error .empty ↔ Text.isAllBlank (dropByteOrderMarks text) = true) ∧
    (∀ e ≠ .empty, splitFile text = .error e ↔ FirstFault (fileLines text) e) ∧
    (∀ records, splitFile text = .ok records ↔
      Text.isAllBlank (dropByteOrderMarks text) = false ∧
        ∃ blocks, IsPartition (fileLines text) blocks ∧ RecordsOf blocks records) ∧
    ∀ records, splitFile text = .ok records → records ≠ [] →
      splitFile (Text.unlines (records.map Record.text)) = .ok records := by
  have hends : ∀ line ∈ fileLines text, line.toList.getLast? ≠ some '\r' := by
    intro line hline hlast
    obtain ⟨cs, hcs, rfl⟩ := List.mem_map.mp hline
    rw [String.toList_ofList] at hlast
    have hmem := Chars.mem_of_mem_lines hcs (List.mem_of_getLast? hlast)
    rw [dropByteOrderMarks, String.toList_ofList] at hmem
    exact hreturn (List.dropWhile_sublist _ |>.subset hmem)
  -- each outcome excludes what the other two say about the lines
  refine ⟨?_, fun e he => ?_, splitFile_eq_ok_iff hends, fun records hok hne => ?_⟩
  · rcases splitFile_cases hends with ⟨hblank, h⟩ | ⟨hblank, ⟨e, hfault, h⟩ | ⟨_, _, -, -, h⟩⟩
    · simp [hblank, h]
    · simp [hblank, h, hfault.ne_empty]
    · simp [hblank, h]
  · rcases splitFile_cases hends with ⟨hblank, h⟩ | ⟨-, ⟨other, hfault, h⟩ |
      ⟨blocks, records, hpartition, -, h⟩⟩
    · rw [h]
      constructor
      · rintro ⟨⟩
        exact absurd rfl he
      · exact fun hfault => absurd hfault (not_firstFault_of_blank hblank)
    · rw [h]
      constructor
      · rintro ⟨⟩
        exact hfault
      · exact fun hother => congrArg _ (hfault.unique hother)
    · rw [h]
      constructor
      · rintro ⟨⟩
      · rintro ⟨index, hfault, -⟩
        exact absurd hfault (not_fault_of_partition hpartition index e)
  · -- the blocks that are no records are gone in the file that is split again
    obtain ⟨-, blocks, hpartition, hrecords⟩ := (splitFile_eq_ok_iff hends records).mp hok
    obtain ⟨kept, hkept, hrecords⟩ := hrecords.exists_blocks
    refine splitFile_unlines hne (fun block hblock => hpartition.sound block (hkept.subset hblock))
      (fun block hblock line hline => isLeveled_of_mem hends ?_) hrecords
    exact hpartition.lines_eq ▸ List.mem_flatten_of_mem (hkept.subset hblock) hline

/-- A file with a byte order mark, a block without a header and a record. -/
theorem splitFile_layout_individual :
    splitFile "\uFEFF0 HEAD\n\n0 @I@ INDI\n 1 SEX M" =
        .ok [⟨"I", .individual, "0 @I@ INDI\n1 SEX M"⟩] ∧
      splitFile "0 @I@ INDI\n1 SEX M" = .ok [⟨"I", .individual, "0 @I@ INDI\n1 SEX M"⟩] := by
  have hok : splitFile "\uFEFF0 HEAD\n\n0 @I@ INDI\n 1 SEX M" =
      .ok [⟨"I", .individual, "0 @I@ INDI\n1 SEX M"⟩] := by
    decide +kernel
  obtain ⟨-, -, -, hagain⟩ :=
    @splitFile_layout "\uFEFF0 HEAD\n\n0 @I@ INDI\n 1 SEX M" (by decide)
  have hjoined := hagain _ hok (List.cons_ne_nil _ _)
  rw [List.map_singleton, Text.unlines_singleton] at hjoined
  exact ⟨hok, hjoined⟩

end Record

end Lineage
