import Lineage.Proofs.Leveled.Run
import Lineage.Proofs.Record.Facts

/-!
# Facts that are looked for

The facts of a record are read in one go: a line of level 1 starts a fact, the second
word of that line is its tag, and the lines up to the next one of level 1 belong to it.
A single fact is looked for in another way. Its first line has to start with the level,
one space and the tag, and it ends in front of the first line that closes it.

The two ways differ where a line is of a form that only one of them knows. So two spaces
in front of a tag hide a fact from the search, and a line of level 0 ends it there.
`TakenAlike` is what a line must be like for both. Then the facts that are read are laid
out one behind the other, and the search stops at the first one with the tag
(`block_eq_find?`).

> `Record.fact?_eq_find?`: the lines of entries are all taken alike, so the fact with a
> tag is the first one with it among all that are read.
-/

namespace Lineage

namespace Fact

/-! ## Lines that are taken alike -/

/-- A line that the search for a tag takes as the reading of facts does: it closes a fact
if it starts one, and carries the tag if it starts a fact with the tag. -/
structure TakenAlike (tag line : String) : Prop where
  closes : Leveled.closesBlock 1 line = startsFact line
  found : Leveled.hasTag ("1 " ++ tag) line = true ↔
    startsFact line = true ∧ (Text.words line)[1]?.getD "" = tag

variable {tag : String}

/-- A fact that is looked for ends in front of the next one, and not before. -/
theorem takeWhile_closesBlock {others : List String} {rest : List (List String)}
    (hothers : ∀ line ∈ others, TakenAlike tag line ∧ startsFact line = false)
    (hrest : ∀ block ∈ rest, IsBlock block ∧ ∀ line ∈ block, TakenAlike tag line) :
    (others ++ rest.flatten).takeWhile (fun line => !Leveled.closesBlock 1 line) = others := by
  refine Text.takeWhile_append_flatten ?_ ?_
  · intro line hline
    obtain ⟨halike, hinner⟩ := hothers line hline
    rw [halike.closes, hinner]
    rfl
  · intro block hblock
    obtain ⟨⟨first, tail, rfl, hfirst, -⟩, halike⟩ := hrest block hblock
    refine ⟨first, tail, rfl, ?_⟩
    rw [(halike first List.mem_cons_self).closes, hfirst]
    rfl

/-- **The first block with a tag is that of the first fact with the tag.** -/
theorem blockLines?_flatten {all : List (List String)}
    (hall : ∀ block ∈ all, IsBlock block ∧ ∀ line ∈ block, TakenAlike tag line) :
    Leveled.blockLines? 1 ("1 " ++ tag) 1 all.flatten =
      all.find? fun block => (ofLines block).tag == tag := by
  induction all with
  | nil => rfl
  | cons block rest ih =>
    rw [List.forall_mem_cons] at hall
    obtain ⟨⟨⟨first, others, rfl, hfirst, hothers⟩, halike⟩, hrest⟩ := hall
    rw [List.forall_mem_cons] at halike
    have hiff : Leveled.hasTag ("1 " ++ tag) first = true ↔
        (ofLines (first :: others)).tag = tag := by
      rw [halike.1.found, hfirst]
      exact ⟨And.right, fun h => ⟨rfl, h⟩⟩
    have hlater := ih hrest
    rw [Leveled.blockLines?] at hlater ⊢
    rw [List.flatten_cons, List.cons_append, Leveled.fromTag]
    by_cases htag : Leveled.hasTag ("1 " ++ tag) first = true
    · rw [if_pos htag, List.find?_cons_of_pos (by simpa using hiff.mp htag), Option.map_some]
      dsimp only
      rw [takeWhile_closesBlock (fun line hline => ⟨halike.2 line hline, hothers line hline⟩) hrest]
    · -- no other line of the block carries the tag, so the search goes on behind it
      have hnone : ∀ line ∈ others, Leveled.hasTag ("1 " ++ tag) line = false := by
        intro line hline
        rw [← Bool.not_eq_true]
        intro h
        have hstarts := ((halike.2 line hline).found.mp h).1
        rw [hothers line hline] at hstarts
        cases hstarts
      rw [if_neg htag, Leveled.fromTag_append hnone, hlater,
        List.find?_cons_of_neg (by simpa using fun h => htag (hiff.mpr h))]

/-- The text of a fact is not empty, and has no blanks in front of it. -/
theorem trimStart_text {block : List String} (h : IsBlock block) :
    Text.trimStart (ofLines block).text = (ofLines block).text ∧
      (ofLines block).text.isEmpty = false := by
  obtain ⟨first, rest, rfl, hfirst, -⟩ := h
  rw [startsFact, beq_iff_eq] at hfirst
  exact Leveled.trimStart_unlines (Leveled.isNumbered_of_level? hfirst) rest

/-- **What the search for a tag comes to** in a text that goes on with facts: the text of the
first fact with the tag, or nothing. -/
theorem block_eq_find? (hne : tag.toList ≠ []) (hword : Chars.IsWord tag.toList) {text : String}
    {before : List String} {all : List (List String)}
    (hlines : Text.lines text = before ++ all.flatten)
    (hbefore : ∀ line ∈ before, Leveled.hasTag ("1 " ++ tag) line = false)
    (hall : ∀ block ∈ all, IsBlock block ∧ ∀ line ∈ block, TakenAlike tag line) :
    Leveled.block 1 ("1 " ++ tag) text 1 =
      (((all.map ofLines).find? (·.tag == tag)).map Fact.text).getD "" := by
  have htrim : Text.trim ("1 " ++ tag) = "1 " ++ tag := Leveled.Tree.trim_opening 1 hne hword
  have hblock : Leveled.blockLines? 1 ("1 " ++ tag) 1 (Text.lines text) =
      all.find? fun block => (ofLines block).tag == tag := by
    rw [← blockLines?_flatten hall, hlines, Leveled.blockLines?, Leveled.blockLines?,
      Leveled.fromTag_append hbefore]
  rw [Leveled.block_eq htrim (Leveled.Tree.opening_ne 1 tag), hblock, List.find?_map]
  show _ = (((all.find? fun block => (ofLines block).tag == tag).map ofLines).map Fact.text).getD ""
  cases hfind : all.find? fun block => (ofLines block).tag == tag with
  | none => rfl
  | some block => exact (trimStart_text (hall block (List.mem_of_find?_eq_some hfind)).1).1

end Fact

/-! ## The lines of entries -/

namespace Leveled

/-- A line of an entry opens with its level and label. -/
theorem Entry.exists_opening (entry : Entry) :
    ∃ behind, entry.line.toList = Tree.opening entry.level entry.tag.text.toList ++ behind ∧
      Chars.StartsBlank behind := by
  rw [Entry.line]
  cases entry.value with
  | none =>
    refine ⟨[], ?_, Chars.startsBlank_nil⟩
    rw [Label.toList_opening, List.append_nil]
  | some value =>
    refine ⟨' ' :: value.toList, ?_, Chars.startsBlank_space _⟩
    rw [String.toList_append, String.toList_append, Label.toList_opening, List.append_assoc]
    rfl

theorem startsFact_line (entry : Entry) :
    Fact.startsFact entry.line = decide (entry.level = 1) := by
  obtain ⟨behind, hline, -⟩ := entry.exists_opening
  rw [Fact.startsFact, Tree.level?_of_opening hline, Bool.eq_iff_iff, beq_iff_eq,
    decide_eq_true_eq]
  split_ifs with hlevel
  · exact Option.some_inj
  · constructor
    · intro h
      cases h
    · intro h
      omega

/-- **The line of an entry is taken alike**, as long as its level is at least 1. -/
theorem takenAlike_line {entry : Entry} (hlevel : 1 ≤ entry.level) (tag : Label) :
    Fact.TakenAlike tag.text entry.line := by
  obtain ⟨behind, hline, hbehind⟩ := entry.exists_opening
  constructor
  · rw [startsFact_line, Tree.closesBlock_of_opening hline (by decide), decide_eq_decide]
    omega
  · have hword := Tree.words_of_opening entry.tag.isWord hbehind entry.tag.nonempty hline
    have hone : "1 " ++ tag.text = toString 1 ++ " " ++ tag.text := rfl
    rw [startsFact_line, hone, Tree.hasTag_of_opening entry.tag.isWord hbehind hline 1 tag.isWord,
      decide_eq_true_eq, decide_eq_true_eq, hword, Option.getD_some, String.ofList_toList,
      String.toList_inj]

end Leveled

/-! ## Records -/

namespace Record

variable {record : Record}

theorem isBlock_of_mem_blocks {block : List String} (h : block ∈ record.blocks) :
    Fact.IsBlock block :=
  Fact.isBlock_of_mem_blocks h

theorem text_of_mem_facts {fact : Fact} (h : fact ∈ record.facts) : fact.text.isEmpty = false := by
  rw [facts_eq] at h
  obtain ⟨block, hblock, rfl⟩ := List.mem_map.mp h
  exact (Fact.trimStart_text (isBlock_of_mem_blocks hblock)).2

/-- **All facts together** are the lines from the first one on that starts a fact. -/
theorem unlines_facts (record : Record) :
    Text.unlines (record.facts.map Fact.text) =
      Text.unlines (((Text.lines record.text).drop 1).dropWhile (!Fact.startsFact ·)) := by
  have hne : ∀ block ∈ record.blocks, block ≠ [] := by
    intro block hblock
    obtain ⟨first, rest, rfl, -⟩ := isBlock_of_mem_blocks hblock
    exact List.cons_ne_nil _ _
  calc Text.unlines (record.facts.map Fact.text)
      = Text.unlines (record.blocks.map Text.unlines) := by
        rw [facts_eq, List.map_map]
        rfl
    _ = Text.unlines record.blocks.flatten := Text.unlines_map_unlines hne
    _ = _ := by rw [blocks, Fact.flatten_blocks]

/-- The fact with a tag is the first one with it, where all lines behind the header are taken
alike and the header does not carry the tag. -/
theorem fact?_of_takenAlike {tag : String} (hne : tag.toList ≠ [])
    (hword : Chars.IsWord tag.toList)
    (hheader : ∀ line ∈ (Text.lines record.text).take 1, Leveled.hasTag ("1 " ++ tag) line = false)
    (halike : ∀ line ∈ (Text.lines record.text).drop 1, Fact.TakenAlike tag line) :
    record.fact? tag = record.facts.find? fun fact => fact.tag == tag := by
  -- the lines in front of the first fact start none, so they do not carry the tag
  have hbefore : ∀ line ∈ ((Text.lines record.text).drop 1).takeWhile (!Fact.startsFact ·),
      Leveled.hasTag ("1 " ++ tag) line = false := by
    intro line hline
    rw [← Bool.not_eq_true]
    intro htag
    have hstarts := ((halike line (List.takeWhile_subset _ hline)).found.mp htag).1
    have hnot := List.mem_takeWhile_imp hline
    rw [hstarts] at hnot
    cases hnot
  have hlines : Text.lines record.text =
      ((Text.lines record.text).take 1 ++
        ((Text.lines record.text).drop 1).takeWhile (!Fact.startsFact ·)) ++
          record.blocks.flatten := by
    rw [blocks, Fact.flatten_blocks, List.append_assoc, List.takeWhile_append_dropWhile,
      List.take_append_drop]
  have hfound := Fact.block_eq_find? hne hword hlines
    (List.forall_mem_append.mpr ⟨hheader, hbefore⟩) fun block hblock =>
      ⟨isBlock_of_mem_blocks hblock,
        fun line hline => halike line (Fact.mem_of_mem_blocks hblock hline)⟩
  rw [← facts_eq] at hfound
  rw [fact?, hfound]
  cases hfind : record.facts.find? fun fact => fact.tag == tag with
  | none => rfl
  | some fact =>
    have htag : fact.tag = tag := by simpa using List.find?_some hfind
    have hempty := text_of_mem_facts (List.mem_of_find?_eq_some hfind)
    rw [Option.map_some, Option.getD_some]
    simp only [hempty, ← htag]
    rfl

/-- **The two ways of finding a fact agree** in a record that consists of a header and the
lines of entries below it. The fact with a tag is the first of all facts with that tag; and
all facts together are the lines from the first one of level 1 on. -/
theorem fact?_eq_find? {header : String} {entries : List Leveled.Entry}
    (hlines : Text.lines record.text = header :: entries.map Leveled.Entry.line)
    (hheader : Leveled.level? header = some 0) (hlevels : ∀ entry ∈ entries, 1 ≤ entry.level) :
    (∀ tag : Leveled.Label,
      record.fact? tag.text = record.facts.find? fun fact => fact.tag == tag.text) ∧
    Text.unlines (record.facts.map Fact.text) =
      Text.unlines ((entries.dropWhile fun entry => entry.level ≠ 1).map Leveled.Entry.line) := by
  constructor
  · intro tag
    refine fact?_of_takenAlike tag.nonempty tag.isWord ?_ ?_
    · rw [hlines]
      intro line hline
      rw [List.mem_singleton.mp hline, ← Bool.not_eq_true]
      intro htag
      -- a line with the tag has the level 1
      have hlevel := (Leveled.level?_of_hasTag tag.nonempty tag.isWord htag).1
      rw [hheader] at hlevel
      cases hlevel
    · rw [hlines]
      intro line hline
      obtain ⟨entry, hentry, rfl⟩ := List.mem_map.mp hline
      exact Leveled.takenAlike_line (hlevels entry hentry) tag
  · have hstarts : (fun line => !Fact.startsFact line) ∘ Leveled.Entry.line =
        fun entry => decide (entry.level ≠ 1) := by
      funext entry
      rw [Function.comp_apply, Leveled.startsFact_line, decide_not]
    rw [unlines_facts, hlines, List.drop_one, List.tail_cons, List.dropWhile_map, hstarts]

/-- A record with a deeper line in front of its facts, and with two trades among them. -/
def twoTrades : Record :=
  ⟨"I", .individual,
    "0 @I@ INDI\n2 TYPE of 1 OCCU\n1 OCCUPATION\n1 OCCU Clerk\n2 PLAC Hull\n1 OCCU Baker"⟩

/-- The lines below its header. -/
def twoTradesEntries : List Leveled.Entry :=
  [⟨2, ⟨"TYPE", by decide, rfl⟩, some "of 1 OCCU"⟩, ⟨1, ⟨"OCCUPATION", by decide, rfl⟩, none⟩,
    ⟨1, Leveled.trade, some "Clerk"⟩, ⟨2, ⟨"PLAC", by decide, rfl⟩, some "Hull"⟩,
    ⟨1, Leveled.trade, some "Baker"⟩]

theorem fact?_eq_find?_twoTrades :
    twoTrades.fact? "OCCU" = some ⟨"OCCU", "1 OCCU Clerk\n2 PLAC Hull"⟩ ∧
      (twoTrades.facts.find? fun fact => fact.tag == "OCCU") =
        some ⟨"OCCU", "1 OCCU Clerk\n2 PLAC Hull"⟩ ∧
      Text.unlines (twoTrades.facts.map Fact.text) =
        "1 OCCUPATION\n1 OCCU Clerk\n2 PLAC Hull\n1 OCCU Baker" := by
  obtain ⟨hfact, hfacts⟩ := @fact?_eq_find? twoTrades "0 @I@ INDI" twoTradesEntries
    (by decide +kernel) (by decide) (by decide)
  have hfound : twoTrades.fact? "OCCU" = some ⟨"OCCU", "1 OCCU Clerk\n2 PLAC Hull"⟩ := by
    decide +kernel
  refine ⟨hfound, (hfact Leveled.trade).symm.trans hfound, ?_⟩
  rw [hfacts]
  decide +kernel

end Record

end Lineage
