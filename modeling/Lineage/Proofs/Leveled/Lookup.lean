import Lineage.Proofs.Leveled.Value

/-!
# Looking up a path in a text

A text need not be the one of a tree. Where no line of it starts with the mark of a
reference, a step along a path goes down to the first block with its tag, or nowhere
(`step?_of_forall`), and the value at the path is read where the walk ends
(`value_of_walk`). A line that such a block starts with has the level and the tag.
-/

namespace Lineage

/-! ## Lines that start with a level and a tag -/

namespace Leveled

/-- A line that starts with the level 1 and a word has this level, and this word as its
second one. -/
theorem level?_of_hasTag {word line : String} (hne : word.toList ≠ [])
    (hword : Chars.IsWord word.toList) (h : hasTag ("1 " ++ word) line = true) :
    level? line = some 1 ∧ (Text.words line)[1]? = some word := by
  obtain ⟨behind, hline, hbehind⟩ := startsBlank_of_hasTag h
  have hopening : line.toList = Tree.opening 1 word.toList ++ behind := by
    rw [hline, ← Tree.toList_opening]
    rfl
  constructor
  · rw [Tree.level?_of_opening hopening]
    rfl
  · rw [Tree.words_of_opening hword hbehind hne hopening, String.ofList_toList]

/-- A line with a level starts with a number. -/
theorem isNumbered_of_level? {line : String} {level : Nat} (h : level? line = some level) :
    isNumbered line = true := by
  rw [isNumbered]
  cases hline : line.toList with
  | nil =>
    rw [level?, hline] at h
    cases h
  | cons d rest =>
    rw [List.head?_cons, Option.any_some]
    by_contra hd
    rw [level?, hline, List.takeWhile_cons_of_neg hd] at h
    cases h

/-! ## Blocks and steps -/

theorem block_eq {level n : Nat} {tag text : String} (htrim : Text.trim tag = tag)
    (hne : tag ≠ "") :
    block level tag text n =
      match blockLines? level tag n (Text.lines text) with
      | none => ""
      | some lines => Text.trimStart (Text.unlines lines) := by
  rw [block, htrim]
  exact if_neg (by rwa [String.isEmpty_iff])

/-- No block is found by a tag that no line starts with. -/
theorem block_of_forall {level : Nat} {tag text : String} (htrim : Text.trim tag = tag)
    (hne : tag ≠ "") (h : ∀ line ∈ Text.lines text, hasTag tag line = false) :
    block level tag text 1 = "" := by
  have hnone : fromTag tag 0 (Text.lines text) = none := by
    rw [← List.append_nil (Text.lines text), fromTag_append h]
    rfl
  rw [block_eq htrim hne, blockLines?, hnone]
  rfl

theorem find?_of_forall {level : Nat} {t : Tag} {text : String}
    (h : ∀ line ∈ Text.lines text, hasTag (toString level ++ " " ++ t.text) line = false) :
    find? level t.text text = none := by
  rw [find?, block_of_forall (Tree.trim_opening level t.nonempty t.isWord)
    (Tree.opening_ne level t.text) h]
  rfl

/-- A step goes down to the block with its tag, where no line starts with the mark of a
reference, and there is no abbreviation in the place of a title. -/
theorem step?_of_forall {record : String} {here : Place} {t : Tag}
    (hmark : ∀ line ∈ Text.lines record, hasTag ("@ " ++ t.text) line = false)
    (htitle : t.text = "TITL" → find? here.level "TITL" here.text = none →
      find? here.level "ABBR" here.text = none) :
    here.step? record false t.text = find? here.level t.text here.text := by
  have htrim : Text.trim ("@ " ++ t.text) = "@ " ++ t.text :=
    trim_append_word (rfl : "@ ".toList.head? = some '@') (by decide) t.nonempty t.isWord
  have hne : "@ " ++ t.text ≠ "" := by
    rw [← String.toList_inj.ne, String.toList_append]
    exact List.cons_ne_nil _ _
  rw [step?_eq, block_of_forall htrim hne hmark]
  cases hfind : find? here.level t.text here.text with
  | some place => rfl
  | none =>
    by_cases htag : t.text = "TITL"
    · rw [if_pos htag, htitle htag (by rw [← htag, hfind])]
      rfl
    · rw [if_neg htag]
      rfl

/-- The walk goes on from where a step leads. -/
theorem walk?_of_step {record tag : String} {here : Place} {next : Option Place}
    (h : here.step? record false tag = next) (path : List String) :
    Place.walk? record false here (tag :: path) =
      next.bind fun place => Place.walk? record false place path := by
  rw [walk?_cons, h]
  cases next <;> rfl

theorem walk?_nil (record : String) (here : Place) :
    Place.walk? record false here [] = some here :=
  rfl

theorem tag_of_find? {level : Nat} {tag text : String} {place : Place}
    (h : find? level tag text = some place) : place.tag = tag := by
  unfold find? at h
  dsimp only at h
  split at h
  next => cases h
  next =>
    cases h
    rfl

/-- The tag of a date. -/
def dateTag : Tag where
  text := "DATE"
  nonempty := by decide
  plain := rfl

theorem split_datePath (t : Tag) : Text.split ':' (t.text ++ ":DATE") = [t.text, dateTag.text] := by
  have hpath : pathText [t, dateTag] = t.text ++ ":DATE" := by
    rw [← String.toList_inj, pathText, String.toList_intercalate]
    simp [dateTag]
  rw [← hpath, split_pathText (List.cons_ne_nil _ _)]
  rfl

/-- The value at a place that is reached with the tag of a date. -/
def valueOfPlace (place : Place) : String :=
  match Place.lineValue? { place with level := place.level - 1 } with
  | none => ""
  | some value => value ++ continuation (place.level - 1 + 1) place.text

/-- A value is read where the walk ends. -/
theorem value_of_walk {path record : String} {level : Nat} {noteText : String → Option String}
    (hrecord : record.isEmpty = false) (hlevel : level ≠ 0)
    (hname : path ≠ "NAME" ∧ path ≠ "_MARNM" ∧ path ≠ "_AKA")
    (hnote : ∀ place, Place.walk? record false ⟨level, "", record⟩ (Text.split ':' path) =
      some place → place.tag ≠ "NOTE") :
    value path level record noteText =
      ((Place.walk? record false ⟨level, "", record⟩ (Text.split ':' path)).map
        valueOfPlace).getD "" := by
  have hstart : (if level = 0 then 1 + recordLevel record else level) = level := if_neg hlevel
  have hrelative : decide (level = 0) = false := decide_eq_false hlevel
  rw [value, hrecord, if_neg Bool.false_ne_true]
  simp only [hstart, hrelative]
  cases hwalk : Place.walk? record false ⟨level, "", record⟩ (Text.split ':' path) with
  | none => rfl
  | some place =>
    have htag := hnote place hwalk
    simp only [htag, if_false, hname, or_self, and_false, Option.map_some, Option.getD_some]
    cases hvalue : Place.lineValue? ⟨place.level - 1, place.tag, place.text⟩ <;>
      simp only [valueOfPlace, hvalue]

end Leveled

end Lineage
