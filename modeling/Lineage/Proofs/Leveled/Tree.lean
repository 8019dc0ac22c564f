import Lineage.Leveled.Block
import Lineage.Leveled.Part
import Lineage.Leveled.Tree
import Lineage.Proofs.Text.Blank
import Lineage.Proofs.Text.Lines
import Lineage.Proofs.Text.Pieces

/-!
# The lines of a tree

A line of a tree is taken apart again in one way only: its level ends at the first
blank, and its tag at the next one. So a block is looked for by the level and the tag
of its first line, and by nothing that is deeper or only starts like it. Since the
lines below a child are deeper than the child, the block of the first child with a
tag consists of the lines of that child.

> `Tree.block_text`: the block with a tag one level below the root is the text of the
> first child with that tag.

A level is a number of 64 bits, so that of a block that is looked for has to be one.
-/

namespace Lineage.Leveled

/-! ## The parts of a line -/

theorem toList_toString (n : Nat) : (toString n).toList = Nat.toDigits 10 n :=
  Nat.toList_repr

theorem isDigit_of_mem_toDigits {n : Nat} {c : Char} (h : c ∈ Nat.toDigits 10 n) :
    c.isDigit = true :=
  Nat.isDigit_of_mem_toDigits (by decide) (by decide) h

theorem isBlank_eq_false_of_isDigit {c : Char} (h : c.isDigit = true) :
    Chars.isBlank c = false := by
  rw [Chars.isDigit_iff] at h
  simp only [Chars.isBlank, Bool.or_eq_false_iff, Bool.and_eq_false_iff, decide_eq_false_iff_not,
    beq_eq_false_iff_ne]
  omega

theorem isWord_toDigits (n : Nat) : Chars.IsWord (Nat.toDigits 10 n) :=
  fun _ hc => isBlank_eq_false_of_isDigit (isDigit_of_mem_toDigits hc)

theorem Tag.isPlain (tag : Tag) {c : Char} (hc : c ∈ tag.text.toList) :
    Chars.isBlank c = false ∧ c ≠ ':' := by
  simpa using List.all_eq_true.mp tag.plain c hc

theorem Tag.isWord (tag : Tag) : Chars.IsWord tag.text.toList :=
  fun _ hc => (tag.isPlain hc).1

theorem Content.trim_toList (content : Content) :
    Chars.trim content.text.toList = content.text.toList := by
  rw [← String.ofList_inj, String.ofList_toList]
  exact content.trimmed

/-! ## How a line starts -/

theorem startsBlank_of_hasTag {tag line : String} (h : hasTag tag line = true) :
    ∃ rest, line.toList = tag.toList ++ rest ∧ Chars.StartsBlank rest := by
  unfold hasTag at h
  split at h
  next => cases h
  next hafter =>
    exact ⟨[], Chars.after?_eq_some_iff.mp hafter, Chars.startsBlank_nil⟩
  next c rest hafter =>
    refine ⟨c :: rest, Chars.after?_eq_some_iff.mp hafter, ?_⟩
    rintro d ⟨⟩
    exact h

theorem isNumbered_iff {line : String} :
    isNumbered line = true ↔ ∃ d rest, line.toList = d :: rest ∧ d.isDigit = true := by
  rw [isNumbered]
  cases line.toList with
  | nil => simp
  | cons d rest => simp

/-- A line with a number does not start with the mark of a reference. -/
theorem hasTag_mark_of_isNumbered {line tag : String} (h : isNumbered line = true) :
    hasTag ("@ " ++ tag) line = false := by
  obtain ⟨d, rest, hline, hd⟩ := isNumbered_iff.mp h
  have hne : '@' ≠ d := by
    rintro rfl
    cases hd
  have hafter : Chars.after? ("@ " ++ tag).toList (d :: rest) = none := by
    rw [String.toList_append]
    exact if_neg hne
  rw [hasTag, hline, hafter]

/-- A line with a number closes the blocks that it is no deeper than. -/
theorem closesBlock_of_isNumbered {line : String} (h : isNumbered line = true) (level : Nat) :
    closesBlock level line = !isDeeper level line := by
  obtain ⟨d, rest, hline, hd⟩ := isNumbered_iff.mp h
  rw [closesBlock, isDeeper]
  cases level? line with
  | some l => exact (decide_eq_decide.mpr Nat.not_lt.symm).trans decide_not
  | none =>
    have hne : 'W' ≠ d := by
      rintro rfl
      cases hd
    change Text.startsWith "WT_" line = false
    rw [Text.startsWith, hline]
    exact congrArg Option.isSome (if_neg hne)

/-- Lines that are joined start as the first of them. -/
theorem exists_unlines_cons (first : String) (rest : List String) :
    ∃ tail, (Text.unlines (first :: rest)).toList = first.toList ++ tail ∧
      (∀ c, tail.head? = some c → c = '\n') := by
  cases rest with
  | nil =>
    refine ⟨[], by rw [Text.unlines_singleton, List.append_nil], ?_⟩
    rintro c ⟨⟩
  | cons next rest =>
    refine ⟨_, Text.unlines_cons_cons first next rest, ?_⟩
    rintro c ⟨⟩
    rfl

/-- Lines of which the first has a number have no blanks in front of them. -/
theorem trimStart_unlines {first : String} (h : isNumbered first = true) (rest : List String) :
    Text.trimStart (Text.unlines (first :: rest)) = Text.unlines (first :: rest) ∧
      (Text.unlines (first :: rest)).isEmpty = false := by
  obtain ⟨d, ds, hfirst, hd⟩ := isNumbered_iff.mp h
  obtain ⟨tail, htail, -⟩ := exists_unlines_cons first rest
  rw [hfirst, List.cons_append] at htail
  constructor
  · rw [Text.trimStart, htail, Chars.trimStart,
      List.dropWhile_cons_of_neg (by rw [isBlank_eq_false_of_isDigit hd]; exact Bool.false_ne_true),
      ← htail, String.ofList_toList]
  · rw [String.isEmpty_eq_false_iff, ← String.toList_inj.ne, htail]
    exact List.cons_ne_nil _ _

namespace Tree

/-- What stands behind the tag of a line. -/
def behindTag : Option Content → List Char
  | none => []
  | some content => ' ' :: content.text.toList

theorem startsBlank_behindTag (content : Option Content) :
    Chars.StartsBlank (behindTag content) := by
  cases content with
  | none => exact Chars.startsBlank_nil
  | some content => exact Chars.startsBlank_space _

variable (level : Nat) (tag : Tag) (content : Option Content)

theorem toList_lineOf :
    (lineOf level tag content).toList =
      Nat.toDigits 10 level ++ ' ' :: (tag.text.toList ++ behindTag content) := by
  cases content <;> simp [lineOf, behindTag]

/-- A level and a word, as a line may start with them. -/
def opening (word : List Char) : List Char :=
  Nat.toDigits 10 level ++ ' ' :: word

theorem toList_opening (word : String) :
    (toString level ++ " " ++ word).toList = opening level word.toList := by
  simp [opening]

theorem opening_ne (word : String) : toString level ++ " " ++ word ≠ "" := by
  rw [← String.toList_inj.ne, toList_opening, opening]
  simp

/-! ## Lines with an opening

A line may open with a level and a word and go on in any way, as long as the word ends
there. All that searches look at is the opening. -/

section

variable {level} {line : String} {word behind : List Char}

/-- The level that a line opens with, as long as it is a number of 64 bits. -/
theorem level?_of_opening (hline : line.toList = opening level word ++ behind) :
    level? line = if level < 18446744073709551616 then some level else none := by
  have hdigits : line.toList.takeWhile Char.isDigit = Nat.toDigits 10 level := by
    rw [hline, opening, List.append_assoc, List.cons_append,
      List.takeWhile_append_of_pos fun c hc => isDigit_of_mem_toDigits hc,
      List.takeWhile_cons_of_neg (by decide), List.append_nil]
  have hne : (Nat.toDigits 10 level).isEmpty = false := by
    rw [List.isEmpty_eq_false_iff]
    exact Nat.toDigits_ne_nil
  rw [level?]
  simp only [hdigits, hne, Nat.ofDigitChars_ten_toDigits, Option.filter_some, decide_eq_true_eq,
    Bool.false_eq_true, if_false]

/-- A line that opens with a level starts with a number. -/
theorem isNumbered_of_opening (hline : line.toList = opening level word ++ behind) :
    isNumbered line = true := by
  obtain ⟨d, ds, hdigits⟩ := List.exists_cons_of_ne_nil (Nat.toDigits_ne_nil (n := level) (b := 10))
  refine isNumbered_iff.mpr ⟨d, ds ++ ' ' :: word ++ behind, ?_, ?_⟩
  · rw [hline, opening, hdigits]
    simp
  · exact isDigit_of_mem_toDigits (n := level) (by rw [hdigits]; exact List.mem_cons_self)

/-- A line closes the blocks of its own level and of the deeper ones. A level of more
than 64 bits closes none, which is right for a block whose level has fewer. -/
theorem closesBlock_of_opening (hline : line.toList = opening level word ++ behind) {k : Nat}
    (hk : k < 18446744073709551616) : closesBlock k line = decide (level ≤ k) := by
  rw [closesBlock_of_isNumbered (isNumbered_of_opening hline), isDeeper, level?_of_opening hline]
  split_ifs with hlevel
  · exact decide_not.symm.trans (decide_eq_decide.mpr Nat.not_lt)
  · rw [eq_comm, Option.all_none, Bool.not_true, decide_eq_false_iff_not]
    omega

variable (hword : Chars.IsWord word) (hbehind : Chars.StartsBlank behind)

include hword hbehind

/-- **A line has one opening**: where it starts with a level and a word, and goes on with
a blank or not at all, these are the level and the word that it opens with. -/
theorem eq_of_opening (hline : line.toList = opening level word ++ behind) {k : Nat}
    {word' rest : List Char} (hword' : Chars.IsWord word') (hrest : Chars.StartsBlank rest)
    (h : line.toList = opening k word' ++ rest) : level = k ∧ word = word' := by
  rw [hline, opening, opening, List.append_assoc, List.append_assoc, List.cons_append,
    List.cons_append] at h
  obtain ⟨hlevel, htail⟩ := Chars.append_inj_of_isWord (isWord_toDigits level) (isWord_toDigits k)
    (Chars.startsBlank_space _) (Chars.startsBlank_space _) h
  obtain ⟨hsame, -⟩ := Chars.append_inj_of_isWord hword hword' hbehind hrest
    (List.cons.inj htail).2
  refine ⟨?_, hsame⟩
  rw [← Nat.ofDigitChars_ten_toDigits (n := level), hlevel, Nat.ofDigitChars_ten_toDigits]

/-- The word is the second one of the line. -/
theorem words_of_opening (hne : word ≠ []) (hline : line.toList = opening level word ++ behind) :
    (Text.words line)[1]? = some (.ofList word) := by
  obtain ⟨more, hmore⟩ := Chars.words_append hne hword hbehind
  have hwords : Chars.words line.toList =
      Nat.toDigits 10 level :: Chars.words (word ++ behind) := by
    rw [hline, opening, List.append_assoc, List.cons_append, Chars.words,
      Chars.splitWhere_append (isWord_toDigits level) rfl]
    simp [Chars.words]
  rw [Text.words, hwords, hmore]
  rfl

/-- **A line is found by the level and the word that it opens with**, and by no others. -/
theorem hasTag_of_opening (hline : line.toList = opening level word ++ behind) (k : Nat)
    {tag : String} (htag : Chars.IsWord tag.toList) :
    hasTag (toString k ++ " " ++ tag) line = decide (level = k ∧ word = tag.toList) := by
  rw [Bool.eq_iff_iff, decide_eq_true_eq]
  constructor
  · intro h
    obtain ⟨rest, hrest, hblank⟩ := startsBlank_of_hasTag h
    rw [toList_opening] at hrest
    exact eq_of_opening hword hbehind hline htag hblank hrest
  · intro h
    obtain ⟨rfl, rfl⟩ := h
    have hafter : Chars.after? (opening level tag.toList) line.toList = some behind :=
      Chars.after?_eq_some_iff.mpr hline
    rw [hasTag, toList_opening, hafter]
    cases behind with
    | nil => rfl
    | cons c rest => exact hbehind c rfl

end

/-! ## The lines of a tree -/

theorem lineOf_opening :
    (lineOf level tag content).toList = opening level tag.text.toList ++ behindTag content := by
  rw [toList_lineOf, opening, List.append_assoc, List.cons_append]

/-- What stands behind the level and the tag of a line. -/
theorem after?_lineOf :
    Chars.after? (opening level tag.text.toList) (lineOf level tag content).toList =
      some (behindTag content) :=
  Chars.after?_eq_some_iff.mpr (lineOf_opening level tag content)

/-- A line starts with a number. -/
theorem isNumbered_lineOf : isNumbered (lineOf level tag content) = true :=
  isNumbered_of_opening (lineOf_opening level tag content)

/-- A line closes the blocks of its own level and of the deeper ones. -/
theorem closesBlock_lineOf {k : Nat} (hk : k < 18446744073709551616) :
    closesBlock k (lineOf level tag content) = decide (level ≤ k) :=
  closesBlock_of_opening (lineOf_opening level tag content) hk

/-- **A line is found by its level and its tag**, and by no others. -/
theorem hasTag_lineOf (k : Nat) (t : Tag) :
    hasTag (toString k ++ " " ++ t.text) (lineOf level tag content) =
      decide (level = k ∧ tag.text = t.text) := by
  rw [hasTag_of_opening tag.isWord (startsBlank_behindTag content)
    (lineOf_opening level tag content) k t.isWord, decide_eq_decide, String.toList_inj]

/-- **A continuation line is one of the level with the tag `CONT`.** -/
theorem continued?_lineOf (k : Nat) :
    continued? k (lineOf level tag content) =
      if level = k ∧ tag.text = "CONT" then some (.ofList ((behindTag content).drop 1))
      else none := by
  have hopening : (toString k ++ " CONT").toList = opening k "CONT".toList := by
    rw [String.toList_append, opening, toList_toString]
    rfl
  have hcont : Chars.IsWord "CONT".toList := Tag.isWord ⟨"CONT", by decide, rfl⟩
  rw [continued?, Text.after?, hopening]
  split_ifs with h
  · obtain ⟨rfl, htag⟩ := h
    rw [← htag, after?_lineOf]
    cases content with
    | none => rfl
    | some content =>
      simp [behindTag, Text.after?, Chars.after?]
  · cases hrest : Chars.after? (opening k "CONT".toList) (lineOf level tag content).toList with
    | none => rfl
    | some rest =>
      have hother : ¬ Chars.StartsBlank rest := by
        intro hblank
        obtain ⟨hlevel, htag⟩ := eq_of_opening tag.isWord (startsBlank_behindTag content)
          (lineOf_opening level tag content) hcont hblank (Chars.after?_eq_some_iff.mp hrest)
        exact h ⟨hlevel, String.toList_inj.mp htag⟩
      cases rest with
      | nil => exact absurd Chars.startsBlank_nil hother
      | cons c rest =>
        have hspace : ' ' ≠ c := by
          rintro rfl
          exact hother (Chars.startsBlank_space rest)
        simp [Text.after?, Chars.after?, hspace]

end Tree

/-! ## Lines that are joined -/

theorem getLast?_of_isWord {word : List Char} (hne : word ≠ []) (hword : Chars.IsWord word) :
    ∃ c, word.getLast? = some c ∧ Chars.isBlank c = false :=
  ⟨_, List.getLast?_eq_some_getLast hne, hword _ (List.getLast_mem hne)⟩

/-- What ends with a word and does not start with a blank has no blanks to be removed. -/
theorem trim_append_word {s word : String} {c : Char} (hs : s.toList.head? = some c)
    (hc : Chars.isBlank c = false) (hne : word.toList ≠ []) (hword : Chars.IsWord word.toList) :
    Text.trim (s ++ word) = s ++ word := by
  obtain ⟨d, hlast, hd⟩ := getLast?_of_isWord hne hword
  have htrim : Chars.trim (s ++ word).toList = (s ++ word).toList := by
    rw [String.toList_append]
    refine Chars.stripWhile_eq_self (fun a ha => ?_) fun a ha => ?_
    · rw [List.head?_append, hs, Option.some_or, Option.some.injEq] at ha
      rw [← ha, hc]
    · rw [List.getLast?_append, hlast, Option.some_or, Option.some.injEq] at ha
      rw [← ha, hd]
  rw [Text.trim, htrim, String.ofList_toList]

namespace Tree

variable (level : Nat) (tag : Tag) (content : Option Content)

theorem getLast?_lineOf :
    ∃ c, (lineOf level tag content).toList.getLast? = some c ∧ c ≠ '\n' ∧ c ≠ '\r' := by
  have hplain {c : Char} (hc : Chars.isBlank c = false) : c ≠ '\n' ∧ c ≠ '\r' := by
    constructor <;> rintro rfl <;> cases hc
  cases content with
  | none =>
    obtain ⟨c, hlast, hc⟩ := getLast?_of_isWord tag.nonempty tag.isWord
    refine ⟨c, ?_, hplain hc⟩
    rw [lineOf, String.toList_append, List.getLast?_append, hlast, Option.some_or]
  | some content =>
    rw [lineOf, String.toList_append, List.getLast?_append]
    cases hlast : content.text.toList.getLast? with
    | none =>
      refine ⟨' ', ?_, by decide⟩
      rw [String.toList_append, List.getLast?_append]
      rfl
    | some c =>
      exact ⟨c, rfl, hplain (Chars.getLast?_of_stripWhile_eq content.trim_toList hlast)⟩

theorem isLine_lineOf : Text.IsLine (lineOf level tag content) where
  ends := getLast?_lineOf level tag content
  single := by
    have hlevel : '\n' ∉ Nat.toDigits 10 level := fun h => by
      have := isWord_toDigits level _ h
      cases this
    have htag : '\n' ∉ tag.text.toList := fun h => by
      have := tag.isWord _ h
      cases this
    rw [toList_lineOf]
    cases content with
    | none => simp [behindTag, hlevel, htag]
    | some content => simp [behindTag, hlevel, htag, content.single]

mutual

/-- The lines of a tree have the levels from its root on. -/
theorem exists_of_mem_lines {level : Nat} {tree : Tree} {line : String}
    (h : line ∈ tree.lines level) :
    ∃ k tag content, line = lineOf k tag content ∧ level ≤ k :=
  match tree, h with
  | node tag content children, h => by
    rw [lines] at h
    rcases List.mem_cons.mp h with rfl | h
    · exact ⟨level, tag, content, rfl, Nat.le_refl _⟩
    · obtain ⟨k, t, c, hline, hle⟩ := exists_of_mem_linesAll h
      exact ⟨k, t, c, hline, Nat.le_of_succ_le hle⟩

theorem exists_of_mem_linesAll {level : Nat} {trees : List Tree} {line : String}
    (h : line ∈ linesAll level trees) :
    ∃ k tag content, line = lineOf k tag content ∧ level ≤ k :=
  match trees, h with
  | tree :: rest, h => by
    rw [linesAll] at h
    rcases List.mem_append.mp h with h | h
    · exact exists_of_mem_lines h
    · exact exists_of_mem_linesAll h

end

theorem isLine_of_mem_lines {level : Nat} {tree : Tree} {line : String}
    (h : line ∈ tree.lines level) : Text.IsLine line := by
  obtain ⟨k, tag, content, rfl, -⟩ := exists_of_mem_lines h
  exact isLine_lineOf k tag content

/-- **The lines of a tree are found again in its text.** -/
theorem lines_text (level : Nat) (tree : Tree) : Text.lines (tree.text level) = tree.lines level :=
  Text.lines_unlines_of_isLine fun _ h => isLine_of_mem_lines h

theorem lines_eq (level : Nat) (tree : Tree) :
    tree.lines level =
      lineOf level tree.tag tree.content :: linesAll (level + 1) tree.children := by
  cases tree with
  | node tag content children => rw [lines, Tree.tag, Tree.content, Tree.children]

/-- The text of a tree starts with its first line. -/
theorem text_eq (level : Nat) (tree : Tree) :
    ∃ rest, (tree.text level).toList = (lineOf level tree.tag tree.content).toList ++ rest ∧
      (∀ c, rest.head? = some c → c = '\n') := by
  rw [text, lines_eq]
  exact exists_unlines_cons _ _

end Tree

/-! ## The block of a child -/

theorem fromTag_append {tag : String} {ls : List String} (h : ∀ line ∈ ls, hasTag tag line = false)
    (n : Nat) (more : List String) : fromTag tag n (ls ++ more) = fromTag tag n more := by
  induction ls with
  | nil => rfl
  | cons line ls ih =>
    have hrest := ih fun l hl => h l (List.mem_cons_of_mem _ hl)
    cases n with
    | zero | succ n =>
      rw [List.cons_append, fromTag, h line List.mem_cons_self, hrest]
      rfl

namespace Tree

/-- The lines below a child have no block at its level. -/
theorem hasTag_of_mem_linesAll {level k : Nat} {trees : List Tree} {line : String}
    (h : line ∈ linesAll k trees) (hlevel : level < k) (t : Tag) :
    hasTag (toString level ++ " " ++ t.text) line = false := by
  obtain ⟨k', tag, content, rfl, hle⟩ := exists_of_mem_linesAll h
  rw [hasTag_lineOf, decide_eq_false_iff_not]
  omega

/-- The lines below a child do not close its block. -/
theorem takeWhile_linesAll {level : Nat} (hlevel : level < 18446744073709551616)
    (trees : List Tree) (rest : List String) :
    (linesAll (level + 1) trees ++ rest).takeWhile (fun line => !closesBlock level line) =
      linesAll (level + 1) trees ++ rest.takeWhile fun line => !closesBlock level line := by
  refine List.takeWhile_append_of_pos fun line hline => ?_
  obtain ⟨k, tag, content, rfl, hle⟩ := exists_of_mem_linesAll hline
  rw [closesBlock_lineOf k tag content hlevel, Bool.not_eq_true', decide_eq_false_iff_not]
  omega

/-- The line of the next child closes a block. -/
theorem takeWhile_next {level : Nat} (hlevel : level < 18446744073709551616) (trees : List Tree) :
    (linesAll level trees).takeWhile (fun line => !closesBlock level line) = [] := by
  cases trees with
  | nil => rfl
  | cons tree rest =>
    rw [linesAll, lines_eq, List.cons_append, List.takeWhile_cons_of_neg]
    rw [closesBlock_lineOf _ _ _ hlevel]
    simp

/-- What is looked for, a level and a word, has no blanks to be removed. -/
theorem trim_opening (level : Nat) {word : String} (hne : word.toList ≠ [])
    (hword : Chars.IsWord word.toList) :
    Text.trim (toString level ++ " " ++ word) = toString level ++ " " ++ word := by
  obtain ⟨d, ds, hdigits⟩ := List.exists_cons_of_ne_nil (Nat.toDigits_ne_nil (n := level) (b := 10))
  refine trim_append_word (c := d) ?_ ?_ hne hword
  · rw [String.toList_append, toList_toString, hdigits]
    rfl
  · exact isWord_toDigits level d (by rw [hdigits]; exact List.mem_cons_self)

/-- **The first block with a tag is that of the first tree with the tag.** -/
theorem blockLines?_linesAll {level : Nat} (hlevel : level < 18446744073709551616)
    (trees : List Tree) (t : Tag) :
    blockLines? level (toString level ++ " " ++ t.text) 1 (linesAll level trees) =
      (trees.find? fun tree => tree.tag.text = t.text).map fun tree => tree.lines level := by
  induction trees with
  | nil => rfl
  | cons tree rest ih =>
    obtain ⟨tag, content, children⟩ := tree
    rw [blockLines?] at ih ⊢
    rw [linesAll, lines, List.cons_append, fromTag, hasTag_lineOf]
    by_cases htag : tag.text = t.text
    · have hblock := takeWhile_linesAll hlevel children (linesAll level rest)
      rw [takeWhile_next hlevel, List.append_nil] at hblock
      rw [if_pos (by simp [htag]), List.find?_cons_of_pos (by simp [Tree.tag, htag]),
        Option.map_some, Option.map_some, lines]
      simp only [hblock]
    · rw [if_neg (by simp [htag]), List.find?_cons_of_neg (by simp [Tree.tag, htag]),
        fromTag_append fun line hline => hasTag_of_mem_linesAll hline (Nat.lt_succ_self level) t]
      exact ih

theorem text_isEmpty (level : Nat) (tree : Tree) : (tree.text level).isEmpty = false := by
  rw [text, lines_eq]
  exact (trimStart_unlines (isNumbered_lineOf level tree.tag tree.content) _).2

theorem trimStart_text (level : Nat) (tree : Tree) :
    Text.trimStart (tree.text level) = tree.text level := by
  rw [text, lines_eq]
  exact (trimStart_unlines (isNumbered_lineOf level tree.tag tree.content) _).1

/-- **The block with a tag one level below the root is the first child with the
tag.** -/
theorem block_text {level : Nat} (hlevel : level + 1 < 18446744073709551616) (tree : Tree)
    (t : Tag) :
    block (level + 1) (toString (level + 1) ++ " " ++ t.text) (tree.text level) 1 =
      match tree.child? t.text with
      | none => ""
      | some child => child.text (level + 1) := by
  have htag := trim_opening (level + 1) t.nonempty t.isWord
  have hne : (toString (level + 1) ++ " " ++ t.text).isEmpty = false :=
    String.isEmpty_eq_false_iff.mpr (opening_ne (level + 1) t.text)
  have hroot : hasTag (toString (level + 1) ++ " " ++ t.text)
      (lineOf level tree.tag tree.content) = false := by
    rw [hasTag_lineOf, decide_eq_false_iff_not]
    omega
  have hblock := blockLines?_linesAll hlevel tree.children t
  rw [blockLines?] at hblock
  rw [block, htag, hne, lines_text, lines_eq, blockLines?, fromTag, hroot]
  simp only [Bool.false_eq_true, if_false, hblock]
  rw [child?]
  cases tree.children.find? fun child => child.tag.text = t.text with
  | none => rfl
  | some child => exact child.trimStart_text (level + 1)

/-- **No line of a tree carries a tag behind the mark of a reference.** -/
theorem block_mark (level k : Nat) (tree : Tree) (t : Tag) :
    block k ("@ " ++ t.text) (tree.text level) 1 = "" := by
  have hnone : fromTag ("@ " ++ t.text) 0 (tree.lines level) = none := by
    have hlines : ∀ line ∈ tree.lines level, hasTag ("@ " ++ t.text) line = false := by
      intro line hline
      obtain ⟨k, tag, content, rfl, -⟩ := exists_of_mem_lines hline
      exact hasTag_mark_of_isNumbered (isNumbered_lineOf k tag content)
    rw [← List.append_nil (tree.lines level), fromTag_append hlines]
    rfl
  rw [block, trim_append_word (c := '@') rfl (by decide) t.nonempty t.isWord, lines_text,
    blockLines?, hnone]
  simp

end Tree

end Lineage.Leveled
