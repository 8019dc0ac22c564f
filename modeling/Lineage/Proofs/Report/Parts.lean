import Lineage.Proofs.Leveled.Part
import Lineage.Report.Repetition

/-!
# The parts that a block is repeated for

A repeated block collects the parts of the active text along its path. To narrow the
text, the first block with a tag is taken (`narrow?_spec`); a block that stands behind
the mark of a reference is not found, because all lines start with a number. Of the
parts those are left out that start with a link to a record that may not be shown.

> `collected_of_beginParts`: each part is collected once, in the order of the text.
-/

namespace Lineage

/-- A cross-reference that was read from a text is on one line. -/
theorem Record.not_mem_xref_of_parse? {text : String} {record : Record}
    (h : Record.parse? text = some record) : '\n' ∉ record.xref.toList := by
  unfold Record.parse? at h
  simp only [Option.bind_eq_bind, Option.bind_eq_some_iff] at h
  obtain ⟨xref, hxref, first, -, kind, -, hrecord⟩ := h
  cases hrecord
  unfold Leveled.headerXref? at hxref
  simp only [Option.bind_eq_bind, Option.bind_eq_some_iff] at hxref
  obtain ⟨line, hline, rest, hrest, ⟨before, behind⟩, hcut, hbefore⟩ := hxref
  split at hbefore
  next => cases hbefore
  next =>
    cases hbefore
    obtain ⟨cs, hcs, rfl⟩ := List.mem_map.mp (List.mem_of_mem_head? hline)
    have hfeed := Chars.not_mem_of_mem_lines hcs
    rw [Text.after?_eq_some_iff, ← String.toList_inj, String.toList_ofList, String.toList_append,
      (Chars.cut?_eq_some_iff.mp hcut).1] at hrest
    rw [String.toList_ofList]
    intro hmem
    exact hfeed (hrest ▸ List.mem_append_right _ (List.mem_append_left _ hmem))

namespace Report

open Leveled

/-! ## What is left out -/

/-- Whether a text starts with a link to a record that may not be shown. -/
def LeadsToHidden (store : Store) (text : String) : Prop :=
  ∃ xref record, StartsWithLink xref text ∧ store.record? xref = some record ∧
    store.canShow record = false

theorem linkVisible_eq_false_iff {store : Store} {text : String} :
    linkVisible store text = false ↔ LeadsToHidden store text := by
  have hbind : linkVisible store text = false ↔
      ∃ record, (leadingXref? text).bind store.record? = some record ∧
        store.canShow record = false := by
    rw [linkVisible]
    cases (leadingXref? text).bind store.record? <;> simp
  rw [hbind, LeadsToHidden]
  simp only [Option.bind_eq_some_iff, leadingXref?_eq_some_iff]
  constructor
  · rintro ⟨record, ⟨xref, hlink, hrecord⟩, hhidden⟩
    exact ⟨xref, record, hlink, hrecord, hhidden⟩
  · rintro ⟨xref, record, hlink, hrecord, hhidden⟩
    exact ⟨record, ⟨xref, hlink, hrecord⟩, hhidden⟩

instance (store : Store) (text : String) : Decidable (LeadsToHidden store text) :=
  decidable_of_iff _ linkVisible_eq_false_iff

/-- Where all records were read from texts, the first line says where a part leads. -/
theorem leadsToHidden_unlines_iff {store : Store}
    (hread : ∀ record ∈ store.records, ∃ text, Record.parse? text = some record)
    (first : String) (rest : List String) :
    LeadsToHidden store (Text.unlines (first :: rest)) ↔ LeadsToHidden store first := by
  refine exists_congr fun xref => exists_congr fun record => and_congr_left ?_
  rintro ⟨hrecord, -⟩
  refine startsWithLink_unlines_iff ?_
  obtain ⟨text, htext⟩ := hread record (List.mem_of_find?_eq_some hrecord)
  have hxref : record.xref = xref := by simpa using List.find?_some hrecord
  rw [← hxref]
  exact Record.not_mem_xref_of_parse? htext

/-! ## Narrowing -/

section

variable {whole text : String} (hwhole : ∀ line ∈ Text.lines whole, isNumbered line = true)

theorem partsAlong_cons (level : Nat) (text : String) (t : Leveled.Tag) {rest : List Leveled.Tag}
    (hrest : rest ≠ []) :
    partsAlong level text (t :: rest) =
      match parts level t (Text.lines text) with
      | [] => []
      | first :: _ => partsAlong (level + 1) (Text.unlines first) rest := by
  obtain ⟨next, rest, rfl⟩ := List.exists_cons_of_ne_nil hrest
  rfl

include hwhole

/-- **The first part is gone on with**, and nothing else. -/
theorem narrow?_cons (htext : ∀ line ∈ Text.lines text, isNumbered line = true) (level : Nat)
    (t : Leveled.Tag) (rest : List String) :
    narrow? whole level text (t.text :: rest) =
      match parts level t (Text.lines text) with
      | [] => none
      | first :: _ => narrow? whole (level + 1) (Text.unlines first) rest := by
  have htag : ¬ t.text.isEmpty = true := by
    rw [String.isEmpty_iff, ← String.toList_inj]
    exact t.nonempty
  -- a block behind a reference would be preferred, but no line starts with its mark
  have hmark : block (level - 1) ("@ " ++ t.text) whole 1 = "" := by
    refine block_of_forall (trim_append_word (c := '@') rfl (by decide) t.nonempty t.isWord) ?_
      fun line hline => hasTag_mark_of_isNumbered (hwhole line hline)
    rw [← String.toList_inj.ne, String.toList_append]
    exact List.cons_ne_nil _ _
  have hblock := block_eq_getElem? htext level t 0
  rw [narrow?, if_neg htag]
  simp only [hmark]
  rw [hblock]
  cases hparts : parts level t (Text.lines text) with
  | nil => rfl
  | cons first others =>
    obtain ⟨⟨line, lines, rfl⟩, hlines⟩ := exists_of_mem_parts (hparts ▸ List.mem_cons_self)
    have hempty := (trimStart_unlines (htext line (hlines line List.mem_cons_self)) lines).2
    simp [hempty]

/-- **The text is narrowed to where the parts along the path are**, by induction on the
tags in front of the last one. -/
theorem narrow?_spec (htext : ∀ line ∈ Text.lines text, isNumbered line = true) (level : Nat)
    (before : List Leveled.Tag) (last : Leveled.Tag) :
    match narrow? whole level text (before.map Leveled.Tag.text) with
    | none => partsAlong level text (before ++ [last]) = []
    | some (l, narrowed) =>
      partsAlong level text (before ++ [last]) = parts l last (Text.lines narrowed) ∧
        ∀ line ∈ Text.lines narrowed, isNumbered line = true := by
  induction before generalizing level text with
  | nil => exact ⟨rfl, htext⟩
  | cons t before ih =>
    rw [List.map_cons, narrow?_cons hwhole htext, List.cons_append,
      partsAlong_cons level text t (by simp)]
    cases hparts : parts level t (Text.lines text) with
    | nil => rfl
    | cons first others =>
      -- the lines of the first part are lines of the text
      obtain ⟨-, hlines⟩ := exists_of_mem_parts (hparts ▸ List.mem_cons_self)
      refine ih (isNumbered_of_mem_lines_unlines (fun line hline => ?_) fun line hline =>
        htext line (hlines line hline)) (level + 1)
      obtain ⟨cs, hcs, rfl⟩ := List.mem_map.mp (hlines line hline)
      rw [String.toList_ofList]
      exact Chars.not_mem_of_mem_lines hcs

end

/-- **All parts along the path are found**, without those that are left out. -/
theorem partsAt_eq (store : Store) {active : Active}
    (hnumbered : ∀ line ∈ Text.lines active.text, isNumbered line = true)
    {tags : List Leveled.Tag} (htags : tags ≠ []) :
    partsAt store active (pathText tags) =
      ((partsAlong active.valueLevel active.text tags).map Text.unlines).filter
        fun text => ¬ LeadsToHidden store text := by
  have hvisible : (fun text => decide ¬ LeadsToHidden store text) = linkVisible store := by
    funext text
    cases hlink : linkVisible store text with
    | false => simpa using linkVisible_eq_false_iff.mp hlink
    | true =>
      rw [decide_eq_true_iff, ← linkVisible_eq_false_iff, hlink]
      exact Bool.true_eq_false.mp
  obtain ⟨before, last, rfl⟩ : ∃ before last, tags = before ++ [last] :=
    ⟨tags.dropLast, tags.getLast htags, (List.dropLast_append_getLast htags).symm⟩
  have hlast : ¬ last.text.isEmpty = true := by
    rw [String.isEmpty_iff, ← String.toList_inj]
    exact last.nonempty
  have hspec := narrow?_spec hnumbered hnumbered active.valueLevel before last
  rw [hvisible, partsAt, split_pathText htags, List.map_append, List.map_singleton]
  simp only [List.dropLast_concat, List.getLastD_concat]
  cases hnarrow : narrow? active.text active.valueLevel active.text
      (before.map Leveled.Tag.text) with
  | none =>
    rw [hnarrow] at hspec
    rw [show partsAlong active.valueLevel active.text (before ++ [last]) = [] from hspec]
    rfl
  | some narrowed =>
    obtain ⟨level, text⟩ := narrowed
    rw [hnarrow] at hspec
    obtain ⟨hparts, htext⟩ := hspec
    simp only [hlast]
    rw [hparts]
    exact filter_blocks htext level last (linkVisible store)

/-- A part along a path has a first line. -/
theorem exists_of_mem_partsAlong {level : Nat} {text : String} {tags : List Leveled.Tag}
    {part : List String} (h : part ∈ partsAlong level text tags) :
    ∃ first rest, part = first :: rest := by
  induction tags generalizing level text with
  | nil => cases h
  | cons t tags ih =>
    by_cases htags : tags = []
    · rw [htags, partsAlong] at h
      exact (exists_of_mem_parts h).1
    · rw [partsAlong_cons level text t htags] at h
      split at h
      next => cases h
      next => exact ih h

/-- A path of tags is not empty. -/
theorem pathText_ne {tags : List Leveled.Tag} (htags : tags ≠ []) : pathText tags ≠ "" := by
  intro hempty
  have hsplit := split_pathText htags
  obtain ⟨t, rest, rfl⟩ := List.exists_cons_of_ne_nil htags
  rw [hempty, List.map_cons] at hsplit
  have htext : "" = t.text := (List.cons.inj hsplit).1
  exact t.nonempty (htext ▸ rfl)

/-- **Each part is collected once**, in the order of the text, but for those that start
with a link to a record that may not be shown. Where the records were read from texts,
these are the ones whose first line is such a link. -/
theorem collected_of_beginParts {env : Environment} {attrs : Attributes} {s : State}
    {tags : List Leveled.Tag} (houter : s.suppression.repeats = 0)
    (hdescription : attrs.getD "tag" "" ≠ "@desc") (htags : tags ≠ [])
    (hpath : Text.replace "@fact" s.active.fact (attrs.getD "tag" "") = pathText tags)
    (hnumbered : ∀ line ∈ Text.lines s.active.text, isNumbered line = true) :
    ∃ items, s.beginParts env attrs = s.enterRepeat.keepItems (.parts items) ∧
      items = ((partsAlong s.active.valueLevel s.active.text tags).map Text.unlines).filter
        (fun text => ¬ LeadsToHidden env.store text) ∧
      ((∀ record ∈ env.store.records, ∃ text, Record.parse? text = some record) →
        items = ((partsAlong s.active.valueLevel s.active.text tags).filter
          fun part => ¬ LeadsToHidden env.store (part.headD "")).map Text.unlines) := by
  have hkeeps : s.beginParts env attrs =
      s.enterRepeat.keepItems (.parts (partsAt env.store s.active (pathText tags))) := by
    have hcollects : s.enterRepeat.suppression.repeats = 1 := congrArg (· + 1) houter
    unfold State.beginParts
    simp only [hcollects, if_true]
    split
    next hempty =>
      rw [hempty] at hpath
      exact absurd hpath.symm (pathText_ne htags)
    next hdesc => exact absurd hdesc hdescription
    next => rw [← hpath]; rfl
  have hparts := partsAt_eq env.store hnumbered htags
  refine ⟨_, hkeeps, hparts, fun hread => ?_⟩
  rw [hparts, List.filter_map]
  refine congrArg (List.map Text.unlines) (List.filter_congr fun part hpart => ?_)
  obtain ⟨first, rest, rfl⟩ := exists_of_mem_partsAlong hpart
  rw [Function.comp_apply, decide_eq_decide, List.headD_cons,
    leadsToHidden_unlines_iff hread]

/-- A note that a visitor may not see. -/
def confidentialNote : Record :=
  ⟨"N1", .note, "0 @N1@ NOTE secret\n1 RESN confidential"⟩

/-- A person with three notes, the second of which may not be shown. The first one looks
like more of them, and there is a longer tag. -/
def notedActive : State :=
  { active :=
      { text := "0 @I1@ INDI\n1 NOTE on page 1 NOTE 2\n2 CONT 1 NOTE\n1 NOTES\n1 NOTE @N1@\n" ++
          "1 NOTE @N2@\n2 SOUR @S1@" } }

theorem collected_of_beginParts_noted :
    Record.parse? confidentialNote.text = some confidentialNote ∧
      Text.replace "@fact" notedActive.active.fact "NOTE" =
        pathText [⟨"NOTE", by decide, rfl⟩] ∧
      (∀ line ∈ Text.lines notedActive.active.text, isNumbered line = true) ∧
      notedActive.beginParts { store := { records := [confidentialNote] } }
        ⟨[("tag", "NOTE")]⟩ =
        notedActive.enterRepeat.keepItems
          (.parts ["1 NOTE on page 1 NOTE 2\n2 CONT 1 NOTE", "1 NOTE @N2@\n2 SOUR @S1@"]) := by
  have hread : Record.parse? confidentialNote.text = some confidentialNote := by decide +kernel
  have hpath : Text.replace "@fact" notedActive.active.fact "NOTE" =
      pathText [⟨"NOTE", by decide, rfl⟩] := by
    decide +kernel
  have hnumbered : ∀ line ∈ Text.lines notedActive.active.text, isNumbered line = true := by
    decide +kernel
  obtain ⟨items, hkeeps, -, hfirst⟩ := @collected_of_beginParts
    { store := { records := [confidentialNote] } } ⟨[("tag", "NOTE")]⟩ notedActive _ rfl
    (by decide) (List.cons_ne_nil _ []) hpath hnumbered
  have hall : ∀ record ∈ [confidentialNote], ∃ text, Record.parse? text = some record := by
    intro record hrecord
    rw [List.mem_singleton.mp hrecord]
    exact ⟨_, hread⟩
  have hitems : items = ["1 NOTE on page 1 NOTE 2\n2 CONT 1 NOTE", "1 NOTE @N2@\n2 SOUR @S1@"] :=
    (hfirst hall).trans (by decide +kernel)
  rw [hitems] at hkeeps
  exact ⟨hread, hpath, hnumbered, hkeeps⟩

end Report

end Lineage
