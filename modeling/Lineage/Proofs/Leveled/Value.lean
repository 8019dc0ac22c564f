import Lineage.Leveled.Value
import Lineage.Proofs.Leveled.Tree

/-!
# Values of a tree

The walk along a path goes from the text of a tree to the text of a child, one level
down at a time, so that at every step it is at a place that is a descendant of the
root (`placeOf`). It never goes up a level or looks for a tag behind a reference,
because no line of a tree starts with one. What it reads there is the line that the
place starts with, and the continuation lines of the next level are children.

> `value_eq_valueAt`: the value at a path in the text of a tree is the value that the
> tree has there.
-/

namespace Lineage.Leveled

open Lineage.Leveled.Tree

/-- The place of a tree whose root has the given level. -/
def placeOf (level : Nat) (tree : Tree) : Place :=
  ⟨level + 1, tree.tag.text, tree.text level⟩

/-! ## One step -/

theorem Tree.tag_of_child? {tree child : Tree} {tag : String} (h : tree.child? tag = some child) :
    child.tag.text = tag := by
  simpa using List.find?_some h

theorem Tree.depth_lt_depthAll {trees : List Tree} {tree : Tree} (h : tree ∈ trees) :
    tree.depth < depthAll trees := by
  induction trees with
  | nil => cases h
  | cons first rest ih =>
    rw [depthAll]
    rcases List.mem_cons.mp h with rfl | h
    · omega
    · have := ih h
      omega

theorem Tree.depth_of_child? {tree child : Tree} {tag : String} (h : tree.child? tag = some child) :
    child.depth < tree.depth := by
  cases tree with
  | node t content children =>
    rw [Tree.depth]
    exact depth_lt_depthAll (List.mem_of_find?_eq_some h)

theorem Tree.depth_of_childFor? {tree child : Tree} {tag : String}
    (h : tree.childFor? tag = some child) : child.depth < tree.depth := by
  rw [childFor?, Option.or_eq_some_iff] at h
  rcases h with h | ⟨-, h⟩
  · exact depth_of_child? h
  · split at h
    · exact depth_of_child? h
    · cases h

/-- The tag of an abbreviation. -/
def abbreviation : Tag where
  text := "ABBR"
  nonempty := by decide
  plain := rfl

variable {level : Nat} {tree : Tree}

/-- The place of the first block of a level with a tag. -/
def find? (level : Nat) (tag text : String) : Option Place :=
  let found := block level (toString level ++ " " ++ tag) text 1
  if found.isEmpty then none else some ⟨level + 1, tag, found⟩

/-- A step that stays at its level, with the two places that it falls back to. -/
theorem step?_eq (record : String) (here : Place) (tag : String) :
    here.step? record false tag =
      ((find? here.level tag here.text).or
        (if tag = "TITL" then find? here.level "ABBR" here.text else none)).or
        (let text := block (here.level - 1) ("@ " ++ tag) record 1
         if text.isEmpty then none else some ⟨here.level - 1 + 1, tag, text⟩) := by
  simp only [Place.step?, find?, Bool.and_false, Bool.false_eq_true, if_false]
  generalize (if (block here.level (toString here.level ++ " " ++ tag) here.text 1).isEmpty = true
    then none else _ : Option Place) = direct
  generalize (if tag = "TITL" then _ else none : Option Place) = title
  cases direct with
  | some place => simp only [Option.some_or]
  | none => cases title <;> simp only [Option.none_or, Option.some_or]

theorem find?_text (hlevel : level + 1 < 18446744073709551616) (t : Tag) :
    find? (level + 1) t.text (tree.text level) =
      (tree.child? t.text).map (placeOf (level + 1)) := by
  rw [find?, block_text hlevel]
  cases hchild : tree.child? t.text with
  | none => rfl
  | some child =>
    rw [Option.map_some, placeOf, tag_of_child? hchild]
    exact if_neg (by simp [child.text_isEmpty])

/-- **A step leads to the child for the tag**, one level down. -/
theorem step?_text (hlevel : level + 1 < 18446744073709551616) (root : Tree)
    (rootLevel : Nat) (tag : String) (t : Tag) :
    Place.step? (root.text rootLevel) false ⟨level + 1, tag, tree.text level⟩ t.text =
      (tree.childFor? t.text).map (placeOf (level + 1)) := by
  have habbreviation : find? (level + 1) "ABBR" (tree.text level) =
      (tree.child? "ABBR").map (placeOf (level + 1)) := find?_text hlevel abbreviation
  rw [step?_eq, find?_text hlevel, habbreviation, block_mark, childFor?]
  split_ifs <;> cases tree.child? t.text <;> simp

-- the step is kept closed, for its searches are costly to unfold
attribute [local irreducible] Place.step? in
theorem walk?_cons (record : String) (relative : Bool) (here : Place) (tag : String)
    (path : List String) :
    Place.walk? record relative here (tag :: path) =
      match here.step? record relative tag with
      | none => none
      | some next => next.walk? record relative path :=
  rfl

/-- **The walk along a path leads to the descendant at the path**, by induction on
the path. It gets no deeper than the path is long, or than the tree is. -/
theorem walk?_text (root : Tree) (rootLevel : Nat) (path : List Tag)
    (hlevels : level + min path.length tree.depth + 1 < 18446744073709551616) :
    Place.walk? (root.text rootLevel) false (placeOf level tree) (path.map Tag.text) =
      (tree.descendant? path).map (placeOf (level + path.length)) := by
  induction path generalizing level tree with
  | nil => rfl
  | cons t path ih =>
    rw [List.length_cons] at hlevels
    rw [List.map_cons, walk?_cons, placeOf, step?_text (by omega), descendant?]
    cases hchild : tree.childFor? t.text with
    | none => rfl
    | some child =>
      have hdepth := depth_of_childFor? hchild
      simp only [Option.map_some]
      rw [ih (by omega), List.length_cons, Nat.add_assoc, Nat.add_comm 1]

/-! ## The value of a line -/

theorem trim_behindTag (content : Option Content) :
    Chars.trim (behindTag content) = (content.elim "" Content.text).toList := by
  cases content with
  | none => rfl
  | some content =>
    have hspace : Chars.trim (behindTag (some content)) = Chars.trim content.text.toList := rfl
    rw [hspace, content.trim_toList]
    rfl

theorem not_mem_behindTag (content : Option Content) : '\n' ∉ behindTag content := by
  cases content with
  | none => exact List.not_mem_nil
  | some content => simp [behindTag, content.single]

theorem Tree.contentText_eq (tree : Tree) :
    tree.contentText = tree.content.elim "" Content.text := by
  rw [contentText]
  cases tree.content <;> rfl

/-- **The value on the line of a place is the content of the tree.** -/
theorem lineValue?_text :
    Place.lineValue? ⟨level, tree.tag.text, tree.text level⟩ = some tree.contentText := by
  obtain ⟨rest, htext, hrest⟩ := tree.text_eq level
  have hfound : Chars.afterFirst? (toString level ++ " " ++ tree.tag.text).toList
      (tree.text level).toList = some (behindTag tree.content ++ rest) := by
    refine Chars.firstSuffix?_of_some ?_
    rw [toList_opening, htext, toList_lineOf, Chars.after?_eq_some_iff, opening]
    simp
  have hline : Chars.restOfLine (behindTag tree.content ++ rest) = behindTag tree.content :=
    Chars.restOfLine_append (not_mem_behindTag _) hrest
  simp only [Place.lineValue?, hfound, Option.map_some, Option.some_or, hline]
  rw [trim_behindTag, String.ofList_toList, contentText_eq]

/-- The continuation lines among trees that follow each other. -/
theorem filterMap_linesAll (level : Nat) (trees : List Tree) :
    (linesAll level trees).filterMap (continued? level) =
      (trees.filter fun tree => tree.tag.text = "CONT").map contentText := by
  induction trees with
  | nil => rfl
  | cons tree rest ih =>
    have hdeeper : (linesAll (level + 1) tree.children).filterMap (continued? level) = [] := by
      rw [List.filterMap_eq_nil_iff]
      intro line hline
      obtain ⟨k, tag, content, rfl, hle⟩ := exists_of_mem_linesAll hline
      rw [continued?_lineOf, if_neg (by omega)]
    have hcontent : String.ofList ((behindTag tree.content).drop 1) = tree.contentText := by
      rw [contentText]
      cases tree.content with
      | none => rfl
      | some content => exact String.ofList_toList
    rw [linesAll, List.filterMap_append, lines_eq, ih]
    by_cases htag : tree.tag.text = "CONT"
    · rw [List.filterMap_cons_some (by rw [continued?_lineOf, if_pos ⟨rfl, htag⟩]), hdeeper,
        hcontent, List.filter_cons_of_pos (by simp [htag])]
      rfl
    · rw [List.filterMap_cons_none (by rw [continued?_lineOf, if_neg (fun h => htag h.2)]), hdeeper,
        List.filter_cons_of_neg (by simp [htag])]
      rfl

/-- **The continuation of a place is that of its direct children.** -/
theorem continuation_text :
    continuation (level + 1) (tree.text level) =
      String.join ((tree.children.filter fun child => child.tag.text = "CONT").map
        fun child => "\n" ++ child.contentText) := by
  have hroot : continued? (level + 1) (lineOf level tree.tag tree.content) = none := by
    rw [continued?_lineOf, if_neg (by omega)]
  rw [continuation, lines_text, lines_eq, List.filterMap_cons_none hroot, filterMap_linesAll,
    List.map_map]
  rfl

/-! ## References and paths -/

/-- A reference is read as it is written: between two signs `@`. -/
theorem reference?_eq_referenced? (text : String) : reference? text = referenced? text := by
  obtain ⟨cs, rfl⟩ : ∃ cs, text = String.ofList cs := ⟨_, String.ofList_toList.symm⟩
  have hafter : Text.after? "@" (.ofList cs) = (Chars.after? ['@'] cs).map String.ofList := by
    rw [Text.after?, String.toList_ofList, String.toList_ofList]
  have hbefore (rest : List Char) : Text.before? "@" (.ofList rest) =
      if rest.getLast? = some '@' then some (.ofList rest.dropLast) else none := by
    rw [Text.before?, String.toList_ofList, String.toList_ofList, Chars.before?_singleton]
    split <;> rfl
  rw [reference?, referenced?, hafter, String.toList_ofList]
  cases cs with
  | nil => rfl
  | cons c rest =>
    by_cases hc : '@' = c
    · subst hc
      rw [Chars.after?, if_pos rfl]
      simp only [Chars.after?, Option.map_some, Option.bind_eq_bind, Option.bind_some, hbefore]
      cases rest with
      | nil => rfl
      | cons d rest =>
        cases rest with
        | nil =>
          -- a single character between the signs would have to be the closing one
          rw [List.getLast?_singleton]
          split <;> rfl
        | cons e rest =>
          rw [List.getLast?_cons_cons]
          by_cases hlast : (e :: rest).getLast? = some '@'
          · have hne : (String.ofList (d :: (e :: rest).dropLast)).isEmpty = false := by
              rw [String.isEmpty_eq_false_iff, ← String.toList_inj.ne, String.toList_ofList]
              exact List.cons_ne_nil _ _
            simp only [if_pos hlast, Option.bind_some,
              List.dropLast_cons_of_ne_nil (List.cons_ne_nil e rest), hne]
            rfl
          · simp only [if_neg hlast]
            rfl
    · rw [Chars.after?, if_neg hc]
      have : c ≠ '@' := Ne.symm hc
      simp [this]

theorem split_pathText {path : List Tag} (hpath : path ≠ []) :
    Text.split ':' (pathText path) = path.map Tag.text := by
  refine Text.split_intercalate (by simpa using hpath) ?_
  rintro _ hpiece hcolon
  obtain ⟨t, -, rfl⟩ := List.mem_map.mp hpiece
  exact (t.isPlain hcolon).2 rfl

/-- The path of a single tag is its text. -/
theorem pathText_eq_iff {path : List Tag} (hpath : path ≠ []) {name : String}
    (hname : ':' ∉ name.toList) : pathText path = name ↔ path.map Tag.text = [name] := by
  constructor
  · intro h
    rw [← split_pathText hpath, h, Text.split, Chars.split, Chars.splitWhere_of_forall,
      List.map_singleton, String.ofList_toList]
    intro c hc
    rw [beq_eq_false_iff_ne]
    rintro rfl
    exact hname hc
  · intro h
    rw [pathText, h, ← String.toList_inj, String.toList_intercalate]
    simp

/-! ## The value at a path -/

theorem isNameTag_iff {path : List Tag} (hpath : path ≠ []) :
    (pathText path = "NAME" ∨ pathText path = "_MARNM" ∨ pathText path = "_AKA") ↔
      path.map Tag.text ∈ nameTags.map ([·]) := by
  rw [pathText_eq_iff hpath (by decide), pathText_eq_iff hpath (by decide),
    pathText_eq_iff hpath (by decide)]
  simp [nameTags]

/-- The walk starts one level below the root, whatever tag it starts with. -/
theorem walk?_start (root : Tree) (level : Nat) {path : List Tag} (hpath : path ≠ [])
    (hlevels : level + min path.length root.depth + 1 < 18446744073709551616) :
    Place.walk? (root.text level) false ⟨level + 1, "", root.text level⟩ (path.map Tag.text) =
      (root.descendant? path).map (placeOf (level + path.length)) := by
  rw [← walk?_text root level path hlevels]
  cases path with
  | nil => exact absurd rfl hpath
  | cons t path =>
    rw [List.map_cons, walk?_cons, walk?_cons, placeOf, step?_text (by omega),
      step?_text (by omega)]

/-- **Reading a value from the text of a tree is reading it from the tree**, for
every tree, every path and whatever is known of notes. A level is a number of 64 bits,
and so have to be those that the walk along the path gets to, with the one below. -/
theorem value_eq_valueAt (tree : Tree) (level : Nat) {path : List Tag} (hpath : path ≠ [])
    (hlevels : level + min path.length tree.depth + 1 < 18446744073709551616)
    (noteText : String → Option String) :
    value (pathText path) (level + 1) (tree.text level) noteText = tree.valueAt path noteText := by
  have hstart : (if level + 1 = 0 then 1 + recordLevel (tree.text level) else level + 1) =
      level + 1 := if_neg (Nat.succ_ne_zero level)
  have hrelative : decide (level + 1 = 0) = false := decide_eq_false (Nat.succ_ne_zero level)
  have hdeep : 0 < path.length := List.length_pos_iff.mpr hpath
  rw [value, tree.text_isEmpty, if_neg Bool.false_ne_true]
  simp only [hstart, hrelative, split_pathText hpath]
  rw [walk?_start tree level hpath hlevels, valueAt]
  cases tree.descendant? path with
  | none => rfl
  | some found =>
    have hlevel : ¬ (level + path.length = 0 ∧ found.tag.text = "NOTE") := by omega
    simp only [Option.map_some, placeOf, Nat.add_sub_cancel, lineValue?_text, continuation_text,
      if_neg hlevel, isNameTag_iff hpath, Tree.value, resolved, reference?_eq_referenced?]
    by_cases hnote : found.tag.text = "NOTE"
    · cases referenced? found.contentText with
      | none | some xref => simp only [if_pos hnote]
    · simp only [if_neg hnote]

/-- A record with a birth, a source that has an abbreviation in place of a title, and
a note with continuation lines of its own and of a line inside it. -/
def baptized : Tree :=
  node ⟨"@I1@", by decide, rfl⟩ (some ⟨"INDI", by decide, by decide⟩)
    [node ⟨"BIRTH", by decide, rfl⟩ none [],
      node ⟨"BIRT", by decide, rfl⟩ none
        [node ⟨"SOUR", by decide, rfl⟩ none
          [node abbreviation (some ⟨"Parish", by decide, by decide⟩) []],
          node ⟨"NOTE", by decide, rfl⟩ (some ⟨"@N1@", by decide, by decide⟩)
            [node ⟨"SOUR", by decide, rfl⟩ none
              [node ⟨"CONT", by decide, rfl⟩ (some ⟨"x", by decide, by decide⟩) []],
              node ⟨"CONT", by decide, rfl⟩ (some ⟨"in May", by decide, by decide⟩) []]]]

def birthNote : List Tag :=
  [⟨"BIRT", by decide, rfl⟩, ⟨"NOTE", by decide, rfl⟩]

theorem value_eq_valueAt_baptized :
    birthNote ≠ [] ∧ 0 + min birthNote.length baptized.depth + 1 < 18446744073709551616 ∧
      value "BIRT:NOTE" 1 (baptized.text 0) (fun _ => some "Baptized") = "Baptized\nin May" :=
  ⟨List.cons_ne_nil _ _, by decide,
    (value_eq_valueAt baptized 0 (List.cons_ne_nil _ _ : birthNote ≠ []) (by decide)
      fun _ => some "Baptized").trans (by decide +kernel)⟩

end Lineage.Leveled
