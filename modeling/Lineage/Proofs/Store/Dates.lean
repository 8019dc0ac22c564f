import Lineage.Listing.DateBound
import Lineage.Proofs.Record.Lookup
import Lineage.Proofs.Store.Facts

/-!
# Dates in privatized texts

A path such as `BIRT:DATE` looks for the first line `1 BIRT` of a text. In a privatized text
from which nothing is left out, and whose lines all have levels, the block of that line is the
text of the first fact with the tag. So what the path leads to is the date of this fact.

> `Store.parse_value_privatize`
-/

namespace Lineage

open Leveled

/-- A record as files have them, as far as facts with a tag are concerned: it is read again from
its text, every line behind the header has a level other than 0, and where the tag is the one
of a line of level 1, a single space stands between them. -/
structure Record.LaidOut (record : Record) (tag : String) : Prop extends record.Regular where
  leveled : ∀ line ∈ (Text.lines record.text).drop 1,
    ∃ level, Leveled.level? line = some level ∧ level ≠ 0
  spaced : ∀ line ∈ (Text.lines record.text).drop 1, Leveled.level? line = some 1 →
    (Text.words line)[1]? = some tag → Leveled.hasTag ("1 " ++ tag) line = true

/-- The lines of such a record are taken alike. -/
theorem Record.LaidOut.takenAlike {record : Record} {t : Leveled.Tag} (h : record.LaidOut t.text) :
    ∀ line ∈ (Text.lines record.text).drop 1, Fact.TakenAlike t.text line := by
  intro line hline
  obtain ⟨level, hlevel, hne⟩ := h.leveled line hline
  have hstarts : Fact.startsFact line = true ↔ level = 1 := by
    rw [Fact.startsFact, hlevel, beq_iff_eq, Option.some_inj]
  constructor
  · rw [Leveled.closesBlock, hlevel, Bool.eq_iff_iff, hstarts, decide_eq_true_eq]
    omega
  · rw [hstarts]
    constructor
    · intro htag
      obtain ⟨hone, hword⟩ := Leveled.level?_of_hasTag t.nonempty t.isWord htag
      rw [hlevel, Option.some_inj] at hone
      exact ⟨hone, by rw [hword, Option.getD_some]⟩
    · intro hfound
      refine h.spaced line hline (hlevel.trans (congrArg some hfound.1)) ?_
      cases hword : (Text.words line)[1]? with
      | none =>
        have hempty := hfound.2
        rw [hword, Option.getD_none] at hempty
        exact absurd (by rw [← hempty]; rfl) t.nonempty
      | some word =>
        rw [← hfound.2, hword, Option.getD_some]

/-! ## The date of a fact -/

namespace Record

variable {record : Record}

/-- The header line starts with its level, behind blanks. -/
theorem Regular.head_header (h : record.Regular) :
    ∀ c, record.header.toList.head? = some c → c = '0' ∨ Chars.isBlank c = true := by
  intro c hc
  by_cases hblank : Chars.isBlank c = true
  · exact .inr hblank
  left
  obtain ⟨-, hxref, -⟩ := of_parse? h.read
  have hnot : Text.isAllBlank record.header = false := by
    rw [Text.isAllBlank, List.all_eq_false]
    exact ⟨c, List.mem_of_head? hc, hblank⟩
  have htrim : Text.trimStart record.header = record.header := by
    rw [Text.trimStart, Chars.trimStart]
    cases hheader : record.header.toList with
    | nil =>
      rw [hheader] at hc
      cases hc
    | cons d rest =>
      rw [hheader] at hc
      cases hc
      rw [List.dropWhile_cons_of_neg hblank, ← hheader, String.ofList_toList]
  rw [Leveled.headerXref?, Text.head?_lines_trimStart h.head?_lines hnot, htrim] at hxref
  obtain ⟨first, hfirst, hxref⟩ := Option.bind_eq_some_iff.mp hxref
  cases hfirst
  obtain ⟨rest, hafter, -⟩ := Option.bind_eq_some_iff.mp hxref
  rw [Text.after?_eq_some_iff.mp hafter, String.toList_append] at hc
  exact (Option.some.inj hc).symm

theorem Regular.hasTag_header (h : record.Regular) {tag : String} {c : Char}
    (hc : tag.toList.head? = some c) (hzero : c ≠ '0') (hblank : Chars.isBlank c = false) :
    Leveled.hasTag tag record.header = false := by
  rw [← Bool.not_eq_true]
  intro htag
  obtain ⟨rest, hline, -⟩ := Leveled.startsBlank_of_hasTag htag
  have hhead : record.header.toList.head? = some c := by
    rw [hline, List.head?_append, hc, Option.some_or]
  rcases h.head_header c hhead with hsame | hsame
  · exact hzero hsame
  · rw [hblank] at hsame
    cases hsame

end Record

namespace Store

variable {store : Store} {record : Record}

/-- All lines of a privatized text from which nothing is left out. -/
theorem lines_privatize_of_visible (h : record.Regular) (hshow : store.canShow record = true)
    (hfacts : ∀ fact ∈ record.facts, store.canShowFact fact = true) :
    Text.lines (store.privatize record) = record.header :: record.blocks.flatten := by
  have hkept : store.keptBlocks record = record.blocks := by
    rw [keptBlocks, hshow, if_pos rfl, List.filter_eq_self]
    intro block hblock
    refine hfacts _ ?_
    rw [Record.facts_eq]
    exact List.mem_map_of_mem hblock
  rw [store.lines_privatize h, hkept]

/-- The text of a fact is what its tag leads to in the privatized text. -/
theorem find?_privatize {t : Leveled.Tag} (h : record.LaidOut t.text)
    (hshow : store.canShow record = true)
    (hfacts : ∀ fact ∈ record.facts, store.canShowFact fact = true) :
    Leveled.find? 1 t.text (store.privatize record) =
      (record.facts.find? (·.tag == t.text)).map fun fact => ⟨2, t.text, fact.text⟩ := by
  have hone : toString 1 ++ " " ++ t.text = "1 " ++ t.text := rfl
  have hheader : ∀ line ∈ [record.header], Leveled.hasTag ("1 " ++ t.text) line = false := by
    intro line hline
    rw [List.mem_singleton.mp hline]
    exact h.toRegular.hasTag_header (by rw [String.toList_append]; rfl : _ = some '1') (by decide)
      (by decide)
  have hblock := Fact.block_eq_find? t.nonempty t.isWord
    (lines_privatize_of_visible h.toRegular hshow hfacts) hheader fun block hblock =>
      ⟨Record.isBlock_of_mem_blocks hblock,
        fun line hline => h.takenAlike line (Fact.mem_of_mem_blocks hblock hline)⟩
  rw [← Record.facts_eq] at hblock
  rw [Leveled.find?, hone, hblock]
  cases hfind : record.facts.find? (·.tag == t.text) with
  | none => rfl
  | some fact =>
    simp only [Option.map_some, Option.getD_some,
      Record.text_of_mem_facts (List.mem_of_find?_eq_some hfind)]
    rfl

/-- A line that starts with the level 1 and a tag starts a fact with the tag. -/
theorem exists_fact_of_hasTag {t : Leveled.Tag} {line : String}
    (hline : line ∈ record.blocks.flatten)
    (htag : Leveled.hasTag ("1 " ++ t.text) line = true) :
    ∃ fact ∈ record.facts, fact.tag = t.text := by
  obtain ⟨hlevel, hword⟩ := Leveled.level?_of_hasTag t.nonempty t.isWord htag
  obtain ⟨block, hblock, hmem⟩ := List.mem_flatten.mp hline
  obtain ⟨first, rest, rfl, -, hrest⟩ := Fact.isBlock_of_mem_blocks hblock
  rcases List.mem_cons.mp hmem with rfl | hmem
  · refine ⟨.ofLines (line :: rest), ?_, ?_⟩
    · rw [Record.facts_eq]
      exact List.mem_map_of_mem hblock
    · rw [Fact.ofLines, List.headD_cons, hword, Option.getD_some]
  · have hnot := hrest line hmem
    rw [Fact.startsFact, hlevel] at hnot
    cases hnot

/-- No abbreviation is found where there is none, or where there is a title. -/
theorem find?_abbreviation {t : Leveled.Tag} (h : record.LaidOut t.text)
    (hshow : store.canShow record = true)
    (hfacts : ∀ fact ∈ record.facts, store.canShowFact fact = true)
    (htitle : t.text = "TITL" → (∃ fact ∈ record.facts, fact.tag = "TITL") ∨
      ∀ fact ∈ record.facts, fact.tag ≠ "ABBR") (htag : t.text = "TITL")
    (hnone : Leveled.find? 1 "TITL" (store.privatize record) = none) :
    Leveled.find? 1 "ABBR" (store.privatize record) = none := by
  rcases htitle htag with ⟨fact, hfact, htitled⟩ | hall
  · -- there is a title, and it would have been found
    rw [← htag, find?_privatize h hshow hfacts, Option.map_eq_none_iff, List.find?_eq_none] at hnone
    exact absurd (by rw [htitled, htag]; exact beq_self_eq_true _) (hnone fact hfact)
  · refine Leveled.find?_of_forall (t := Leveled.abbreviation) fun line hline => ?_
    rw [lines_privatize_of_visible h.toRegular hshow hfacts] at hline
    rcases List.mem_cons.mp hline with rfl | hline
    · exact h.toRegular.hasTag_header (rfl : _ = some '1') (by decide) (by decide)
    · rw [← Bool.not_eq_true]
      intro habbreviation
      obtain ⟨fact, hfact, hsame⟩ :=
        exists_fact_of_hasTag (t := Leveled.abbreviation) hline habbreviation
      exact hall fact hfact hsame

/-- No line of a privatized text starts with the mark of a reference. -/
theorem hasTag_mark_privatize {tag : String} (h : record.LaidOut tag)
    (hshow : store.canShow record = true)
    (hfacts : ∀ fact ∈ record.facts, store.canShowFact fact = true) (t : Leveled.Tag) :
    ∀ line ∈ Text.lines (store.privatize record), Leveled.hasTag ("@ " ++ t.text) line = false := by
  rw [lines_privatize_of_visible h.toRegular hshow hfacts]
  refine List.forall_mem_cons.mpr ⟨?_, fun line hline => ?_⟩
  · exact h.toRegular.hasTag_header (by rw [String.toList_append]; rfl : _ = some '@') (by decide)
      (by decide)
  · obtain ⟨block, hblock, hmem⟩ := List.mem_flatten.mp hline
    obtain ⟨level, hlevel, -⟩ := h.leveled line (Fact.mem_of_mem_blocks hblock hmem)
    exact Leveled.hasTag_mark_of_isNumbered (Leveled.isNumbered_of_level? hlevel)

/-- The value of the date of a fact. -/
theorem value_fact {tag : String} (h : record.LaidOut tag) {fact : Fact}
    (hfact : fact ∈ record.facts) (noteText : String → Option String) :
    Leveled.value "DATE" 2 fact.text noteText =
      ((Leveled.find? 2 "DATE" fact.text).map Leveled.valueOfPlace).getD "" := by
  rw [Record.facts_eq] at hfact
  obtain ⟨block, hblock, rfl⟩ := List.mem_map.mp hfact
  obtain ⟨hisBlock, hisLine⟩ := h.toRegular.blocks_sound block hblock
  have hleveled : ∀ line ∈ block, ∃ level, Leveled.level? line = some level ∧ level ≠ 0 :=
    fun line hline => h.leveled line (Fact.mem_of_mem_blocks hblock hline)
  have hlines : Text.lines (Fact.ofLines block).text = block :=
    Text.lines_unlines_of_isLine hisLine
  have hempty := (Fact.trimStart_text hisBlock).2
  generalize Fact.ofLines block = fact at hlines hempty ⊢
  have hsplit : Text.split ':' "DATE" = [Leveled.dateTag.text] := by decide
  have hmark : ∀ line ∈ Text.lines fact.text,
      Leveled.hasTag ("@ " ++ Leveled.dateTag.text) line = false := by
    rw [hlines]
    intro line hline
    obtain ⟨level, hlevel, -⟩ := hleveled line hline
    exact Leveled.hasTag_mark_of_isNumbered (Leveled.isNumbered_of_level? hlevel)
  have hwalk : Leveled.Place.walk? fact.text false ⟨2, "", fact.text⟩ (Text.split ':' "DATE") =
      Leveled.find? 2 "DATE" fact.text := by
    have hstep := @Leveled.step?_of_forall fact.text ⟨2, "", fact.text⟩ Leveled.dateTag hmark
      fun htag => absurd htag (by decide)
    rw [hsplit, Leveled.walk?_of_step hstep]
    simp only [Leveled.walk?_nil]
    exact Option.bind_fun_some _
  rw [Leveled.value_of_walk hempty (by decide) (by decide), hwalk]
  rw [hwalk]
  intro place hplace
  rw [Leveled.tag_of_find? hplace]
  decide

/-- **The value that a path to a date leads to in a privatized text** is the one of the fact. -/
theorem parse_value_privatize {t : Leveled.Tag} (h : record.LaidOut t.text)
    (hshow : store.canShow record = true)
    (hfacts : ∀ fact ∈ record.facts, store.canShowFact fact = true)
    (htitle : t.text = "TITL" → (∃ fact ∈ record.facts, fact.tag = "TITL") ∨
      ∀ fact ∈ record.facts, fact.tag ≠ "ABBR") (noteText : String → Option String) :
    Date.parse (Leveled.value (t.text ++ ":DATE") 1 (store.privatize record) noteText) =
      record.dateOf t.text := by
  have hcolon : ':' ∈ (t.text ++ ":DATE").toList := by
    rw [String.toList_append]
    exact List.mem_append_right _ List.mem_cons_self
  have hname : t.text ++ ":DATE" ≠ "NAME" ∧ t.text ++ ":DATE" ≠ "_MARNM" ∧
      t.text ++ ":DATE" ≠ "_AKA" := by
    refine ⟨?_, ?_, ?_⟩ <;>
    · intro heq
      rw [heq] at hcolon
      exact absurd hcolon (by decide)
  have hempty : (store.privatize record).isEmpty = false := by
    rw [String.isEmpty_eq_false_iff]
    intro hnil
    have hlines := lines_privatize_of_visible h.toRegular hshow hfacts
    rw [hnil] at hlines
    cases hlines
  have hmark := hasTag_mark_privatize h hshow hfacts
  -- the walk goes to the first fact with the tag, and from there as it does from the fact alone
  have hwalk : Leveled.Place.walk? (store.privatize record) false
      ⟨1, "", store.privatize record⟩ (Text.split ':' (t.text ++ ":DATE")) =
        (record.facts.find? (·.tag == t.text)).bind fun fact =>
          Leveled.find? 2 "DATE" fact.text := by
    have hfirst := @Leveled.step?_of_forall (store.privatize record)
      ⟨1, "", store.privatize record⟩ t (hmark t) (find?_abbreviation h hshow hfacts htitle)
    have hsecond (fact : Fact) := @Leveled.step?_of_forall (store.privatize record)
      ⟨2, t.text, fact.text⟩ Leveled.dateTag (hmark Leveled.dateTag)
      fun htag => absurd htag (by decide)
    dsimp only at hfirst hsecond
    rw [find?_privatize h hshow hfacts] at hfirst
    rw [Leveled.split_datePath, Leveled.walk?_of_step hfirst, Option.bind_map]
    refine congrArg _ (funext fun fact => ?_)
    rw [Function.comp_apply, Leveled.walk?_of_step (hsecond fact)]
    simp only [Leveled.walk?_nil]
    exact Option.bind_fun_some _
  rw [Leveled.value_of_walk hempty (by decide) hname, hwalk, Record.dateOf]
  · cases hfind : record.facts.find? (·.tag == t.text) with
    | none => rfl
    | some fact =>
      rw [Option.bind_some]
      dsimp only
      rw [Fact.date, value_fact h (List.mem_of_find?_eq_some hfind)]
  · rw [hwalk]
    intro place hplace
    obtain ⟨fact, -, hplace⟩ := Option.bind_eq_some_iff.mp hplace
    rw [Leveled.tag_of_find? hplace]
    decide

end Store

end Lineage
