import Lineage.Proofs.Record.Header
import Lineage.Record.Split

/-!
# Records that are read again

`Record.Regular` describes a record whose text can be taken apart into its lines
and put together again: it is read as the same record, and none of its lines is
empty or ends with a carriage return. Regular are the records of a file, as long
as there are no carriage returns at the ends of its lines other than those that
belong to line breaks.

> `Record.regular_of_splitFile`
-/

namespace Lineage

namespace Text

/-- A line that is not blank remains a line without the blanks at its start. -/
theorem isLine_trimStart {s line : String} (h : line ∈ lines s)
    (hreturn : line.toList.getLast? ≠ some '\r') (hne : trimStart line ≠ "") :
    IsLine (trimStart line) := by
  obtain ⟨cs, hcs, rfl⟩ := List.mem_map.mp h
  rw [String.toList_ofList] at hreturn
  have hfeed : '\n' ∉ cs := Chars.not_mem_of_mem_lines hcs
  obtain ⟨blanks, hblanks⟩ : Chars.trimStart cs <:+ cs := List.dropWhile_suffix Chars.isBlank
  rw [trimStart, String.toList_ofList] at hne ⊢
  have hrest : Chars.trimStart cs ≠ [] := by
    intro hnil
    rw [hnil] at hne
    exact hne rfl
  -- only blanks at the start are gone, so both end alike
  have hlast : cs.getLast? = some ((Chars.trimStart cs).getLast hrest) := by
    rw [← List.getLast?_eq_some_getLast, ← hblanks, List.getLast?_append_of_ne_nil _ hrest, hblanks]
  constructor
  · refine ⟨(Chars.trimStart cs).getLast hrest, ?_, ?_, ?_⟩
    · rw [String.toList_ofList]
      exact List.getLast?_eq_some_getLast hrest
    · intro hc
      exact hfeed (hc ▸ List.mem_of_getLast? hlast)
    · intro hc
      rw [hlast, hc] at hreturn
      exact hreturn rfl
  · rw [String.toList_ofList]
    exact fun hmem => hfeed (hblanks ▸ List.mem_append_right blanks hmem)

theorem startsPlain_trimStart (s : String) : Chars.StartsPlain (trimStart s).toList := by
  intro c hc
  rw [trimStart, String.toList_ofList, Chars.trimStart] at hc
  have hblank : Chars.isBlank c = false := by
    have hnot := List.head?_dropWhile_not Chars.isBlank s.toList
    rwa [hc] at hnot
  constructor <;>
  · rintro rfl
    cases hblank

end Text

namespace Record

/-- A record that is read again from its text, and none of whose lines is empty
or ends with a carriage return. -/
structure Regular (record : Record) : Prop where
  read : parse? record.text = some record
  ends : ∀ line ∈ Text.lines record.text, Text.EndsPlain line

theorem Regular.isLine {record : Record} (h : record.Regular) :
    ∀ line ∈ Text.lines record.text, Text.IsLine line :=
  fun line hline => Text.isLine_of_mem_lines hline (h.ends line hline)

theorem forall_close {P : String → Prop} {block : List String} (h : ∀ line ∈ block, P line) :
    ∀ lines ∈ gatherBlocks.close block, lines ≠ [] ∧ ∀ line ∈ lines, P line := by
  intro lines hlines
  unfold gatherBlocks.close at hlines
  split at hlines
  next => cases hlines
  next hne =>
    rw [List.mem_singleton] at hlines
    subst hlines
    refine ⟨fun hnil => hne ?_, fun line hline => h line (List.mem_reverse.mp hline)⟩
    rw [List.reverse_eq_nil_iff.mp hnil]
    rfl

/-- What holds of the lines of a file, without the blanks at their start, holds of
the lines in its blocks. -/
theorem forall_gatherBlocks {P : String → Prop} {number : Nat} {block lines : List String}
    {blocks : List (List String)} (h : gatherBlocks number block lines = .ok blocks)
    (hblock : ∀ line ∈ block, P line)
    (hlines : ∀ line ∈ lines, Text.trimStart line ≠ "" → P (Text.trimStart line)) :
    ∀ lines ∈ blocks, lines ≠ [] ∧ ∀ line ∈ lines, P line := by
  induction lines generalizing number block blocks with
  | nil =>
    cases h
    exact forall_close hblock
  | cons line rest ih =>
    have hrest : ∀ l ∈ rest, Text.trimStart l ≠ "" → P (Text.trimStart l) :=
      fun l hl => hlines l (List.mem_cons_of_mem _ hl)
    unfold gatherBlocks at h
    dsimp only at h
    split at h
    next => exact ih h hblock hrest
    next hne =>
      have hline : P (Text.trimStart line) := by
        refine hlines line (List.mem_cons_self ..) fun hempty => hne ?_
        rw [hempty]
        rfl
      split at h
      next =>
        -- a line of level 0 closes the block and starts the next one
        cases hlater : gatherBlocks (number + 1) [Text.trimStart line] rest with
        | error e =>
          rw [hlater] at h
          cases h
        | ok later =>
          rw [hlater] at h
          cases h
          intro lines hmem
          rcases List.mem_append.mp hmem with hmem | hmem
          · exact forall_close hblock lines hmem
          · exact ih hlater (by simpa using hline) hrest lines hmem
      next =>
        split at h
        next => cases h
        next => exact ih h (List.forall_mem_cons.mpr ⟨hline, hblock⟩) hrest
      next => cases h

/-- A record that is read from lines is regular. -/
theorem regular_of_parse? {lines : List String} {record : Record} (hne : lines ≠ [])
    (hlines : ∀ line ∈ lines, Text.IsLine line ∧ Chars.StartsPlain line.toList)
    (h : parse? (Text.unlines lines) = some record) : record.Regular := by
  have hisLine : ∀ line ∈ lines, Text.IsLine line := fun line hline => (hlines line hline).1
  have hfound : Text.lines (Text.unlines lines) = lines := Text.lines_unlines_of_isLine hisLine
  have hend : Text.EndsPlain (Text.unlines lines) :=
    Text.endsPlain_unlines hne fun line hline => (hisLine line hline).ends
  have hstart : Chars.StartsPlain (Text.unlines lines).toList := by
    obtain ⟨first, rest, rfl⟩ := List.exists_cons_of_ne_nil hne
    obtain ⟨hfirst, hplain⟩ := hlines first (List.mem_cons_self ..)
    have hown : (Text.lines first).head? = some first := by rw [hfirst.lines_eq, List.head?_cons]
    exact Text.startsPlain_congr hplain hown (by rw [hfound, List.head?_cons])
  have htext : record.text = Text.unlines lines := by
    rw [(of_parse? h).1, Chars.stripBreaks_of_plain hstart hend, String.ofList_toList]
  constructor
  · rw [htext, h]
  · rw [htext, hfound]
    exact fun line hline => (hisLine line hline).ends

/-- **The records of a file are regular**, as long as no line of it ends with a
carriage return. -/
theorem regular_of_splitFile {text : String} {records : List Record}
    (h : splitFile text = .ok records)
    (hreturn : ∀ line ∈ Text.lines (dropByteOrderMarks text), line.toList.getLast? ≠ some '\r') :
    ∀ record ∈ records, record.Regular := by
  unfold splitFile at h
  dsimp only at h
  split at h
  next => cases h
  next =>
    cases hblocks : gatherBlocks 1 [] (Text.lines (dropByteOrderMarks text)) with
    | error e =>
      rw [hblocks] at h
      cases h
    | ok blocks =>
      rw [hblocks] at h
      cases h
      have hsound := forall_gatherBlocks
        (P := fun line => Text.IsLine line ∧ Chars.StartsPlain line.toList) hblocks
        (fun line hline => absurd hline List.not_mem_nil)
        fun line hline hne =>
          ⟨Text.isLine_trimStart hline (hreturn line hline) hne, Text.startsPlain_trimStart line⟩
      intro record hrecord
      obtain ⟨lines, hmem, hparse⟩ := List.mem_filterMap.mp hrecord
      obtain ⟨hne, hlines⟩ := hsound lines hmem
      exact regular_of_parse? hne hlines hparse

end Record

end Lineage
