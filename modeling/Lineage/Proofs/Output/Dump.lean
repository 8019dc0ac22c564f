import Lineage.Output.Dump
import Lineage.Output.Extent
import Lineage.Proofs.Document.Footnotes
import Lineage.Proofs.Leveled.Tree

/-!
# The lines of the dump

Everything that is printed is one line of text, or ends up in one: the line breaks in a cell
are written as slashes. Only the title and the footnotes are printed as they are
(`length_lines_dump_of_brokenFootnote`). The lines of an element are therefore a weight that is
added up over the tree (`lineCount_dumpLines`), and the weight is the sum of what counts as a
line and of the line breaks.

> `length_lines_dump`: the dump has a line for each part of the output, and one more for
> each line break in the title, and in the footnotes wherever they are printed.
-/

namespace Lineage

namespace Text

/-- The number of lines that texts make up, each with a line feed behind it. -/
def lineCount : List String → Nat
  | [] => 0
  | s :: rest => breaks s + 1 + lineCount rest

theorem lineCount_append (xs ys : List String) :
    lineCount (xs ++ ys) = lineCount xs + lineCount ys := by
  induction xs with
  | nil => rw [List.nil_append, lineCount, Nat.zero_add]
  | cons s xs ih => rw [List.cons_append, lineCount, lineCount, ih, Nat.add_assoc (breaks s + 1)]

/-- **Texts with a line feed behind each are cut into lines.** -/
theorem length_lines_join (texts : List String) :
    (lines (String.join (texts.map (· ++ "\n")))).length = lineCount texts := by
  induction texts with
  | nil => rfl
  | cons s rest ih =>
    have hchars : (String.join ((s :: rest).map (· ++ "\n"))).toList =
        s.toList ++ '\n' :: (String.join (rest.map (· ++ "\n"))).toList := by
      rw [List.map_cons, String.join_cons]
      simp
    rw [lines, List.length_map] at ih ⊢
    rw [hchars, Chars.length_lines_feed, ih]
    rfl

theorem breaks_append (s t : String) : breaks (s ++ t) = breaks s + breaks t := by
  rw [breaks, String.toList_append, List.count_append]
  rfl

theorem breaks_eq_zero {s : String} (h : '\n' ∉ s.toList) : breaks s = 0 :=
  List.count_eq_zero_of_not_mem h

end Text

namespace ElementTree

/-! ## Lines of elements -/

theorem breaks_indent (depth : Nat) : Text.breaks (indent depth) = 0 := by
  refine Text.breaks_eq_zero fun h => ?_
  rw [indent, String.toList_ofList] at h
  exact absurd (List.eq_of_mem_replicate h) (by decide)

theorem breaks_toString (n : Nat) : Text.breaks (toString n) = 0 := by
  refine Text.breaks_eq_zero fun h => ?_
  rw [Leveled.toList_toString] at h
  exact absurd (Leveled.isDigit_of_mem_toDigits h) (by decide)

theorem breaks_name (e : Element) : Text.breaks e.name = 0 := by
  cases e <;> (rw [Element.name]; rfl)

/-- A text is printed on one line. -/
theorem breaks_textLine (depth : Nat) {name : String} (h : Text.breaks name = 0) (text : String) :
    Text.breaks (textLine depth name text) = 0 := by
  have htext : Text.breaks (Text.replace "\n" " / " text) = 0 := by
    refine Text.breaks_eq_zero ?_
    rw [Text.replace, String.toList_ofList]
    exact Chars.not_mem_replace (by decide) text.toList
  rw [textLine, Text.breaks_append, Text.breaks_append, Text.breaks_append, breaks_indent, h, htext]
  rfl

/-- The text of a footnote is printed with its line breaks. -/
theorem lineCount_footnotes (depth : Nat) (footnotes : List FootnoteEntry) :
    Text.lineCount (footnotes.map fun entry =>
        indent depth ++ toString entry.num ++ ". " ++ entry.text) =
      footnotes.length + FootnoteEntry.breaksIn footnotes := by
  induction footnotes with
  | nil => rfl
  | cons entry rest ih =>
    rw [List.map_cons, Text.lineCount, ih, List.length_cons, FootnoteEntry.breaksIn,
      Text.breaks_append, Text.breaks_append, Text.breaks_append, breaks_indent, breaks_toString,
      show Text.breaks ". " = 0 from rfl]
    omega

/-- The lines of an element, where `weight` is added up. -/
def lineWeight (footnotes : List FootnoteEntry) (e : Element) : Nat :=
  e.extent footnotes + e.footnoteBreaks footnotes

mutual

/-- **An element takes one line**, but for the texts of footnotes. -/
theorem lineCount_dumpLines (footnotes : List FootnoteEntry) (depth : Nat) :
    (tree : ElementTree) →
      Text.lineCount (tree.dumpLines footnotes depth) = tree.weigh (lineWeight footnotes)
  | node e children => by
    have hline (s : String) (hs : Text.breaks s = 0) : Text.lineCount [s] = 1 := by
      rw [Text.lineCount, hs]
      rfl
    have hnamed (e : Element) : Text.breaks (indent depth ++ e.name) = 0 := by
      rw [Text.breaks_append, breaks_indent, breaks_name]
    cases e with
    | textBox box =>
      rw [dumpLines, weigh, Text.lineCount, lineCount_dumpAll footnotes (depth + 1) children,
        Text.breaks_append, breaks_indent]
      rfl
    | footnote mark =>
      refine hline _ ?_
      rw [Text.breaks_append, Text.breaks_append, Text.breaks_append, breaks_indent,
        breaks_toString]
      rfl
    | footnoteTexts => exact lineCount_footnotes depth footnotes
    | cell cell => exact hline _ (breaks_textLine depth rfl cell.text)
    | text run => exact hline _ (breaks_textLine depth rfl run.text)
    | line line => exact hline _ (hnamed (.line line))
    | image image => exact hline _ (hnamed (.image image))
    | newPage => exact hline _ (hnamed .newPage)

/-- The elements of a list take their lines one after the other. -/
theorem lineCount_dumpAll (footnotes : List FootnoteEntry) (depth : Nat) :
    (trees : List ElementTree) →
      Text.lineCount (dumpAll footnotes depth trees) = weighAll (lineWeight footnotes) trees
  | [] => rfl
  | tree :: rest => by
    rw [dumpAll, weighAll, Text.lineCount_append, lineCount_dumpLines footnotes depth tree,
      lineCount_dumpAll footnotes depth rest]

end

/-! ## Weights -/

mutual

/-- Weights may be added up one by one. -/
theorem weigh_add (f g : Element → Nat) :
    (tree : ElementTree) → tree.weigh (fun e => f e + g e) = tree.weigh f + tree.weigh g
  | node e children => by
    cases e with
    | textBox box =>
      rw [weigh, weigh, weigh, weighAll_add f g children]
      omega
    | _ => rfl

theorem weighAll_add (f g : Element → Nat) :
    (trees : List ElementTree) →
      weighAll (fun e => f e + g e) trees = weighAll f trees + weighAll g trees
  | [] => rfl
  | tree :: rest => by
    rw [weighAll, weighAll, weighAll, weigh_add f g tree, weighAll_add f g rest]
    omega

end

end ElementTree

namespace Output

theorem filledSections_eq (out : Output) :
    out.filledSections = (if (out.elements .header).isEmpty then 0 else 1) +
      (if (out.elements .body).isEmpty then 0 else 1) +
      (if (out.elements .footer).isEmpty then 0 else 1) := by
  rw [filledSections, Section.all]
  simp only [List.filter_cons, List.filter_nil]
  cases (out.elements .header).isEmpty <;> cases (out.elements .body).isEmpty <;>
    cases (out.elements .footer).isEmpty <;> rfl

theorem weigh_add (out : Output) (f g : Element → Nat) :
    out.weigh (fun e => f e + g e) = out.weigh f + out.weigh g := by
  rw [weigh, weigh, weigh, ElementTree.weighAll_add, ElementTree.weighAll_add,
    ElementTree.weighAll_add]
  omega

/-- The lines of a section: its name, and its elements under it. -/
def sectionLines (out : Output) (s : Section) : List String :=
  match out.elements s with
  | [] => []
  | trees => ("[" ++ s.name ++ "]") :: ElementTree.dumpAll out.footnotes 1 trees

theorem lineCount_sectionLines (out : Output) (s : Section) :
    Text.lineCount (out.sectionLines s) = (if (out.elements s).isEmpty then 0 else 1) +
      ElementTree.weighAll (ElementTree.lineWeight out.footnotes) (out.elements s) := by
  rw [sectionLines]
  cases out.elements s with
  | nil => rfl
  | cons tree rest =>
    have hname : Text.breaks ("[" ++ s.name ++ "]") = 0 := by cases s <;> rfl
    rw [Text.lineCount, hname, ElementTree.lineCount_dumpAll]
    rfl

theorem lineCount_sections (out : Output) :
    Text.lineCount (Section.all.flatMap out.sectionLines) =
      out.filledSections + out.weigh (ElementTree.lineWeight out.footnotes) := by
  have hall : Section.all.flatMap out.sectionLines =
      out.sectionLines .header ++ (out.sectionLines .body ++ out.sectionLines .footer) := by
    simp [Section.all]
  have hweigh (weight : Element → Nat) : out.weigh weight =
      ElementTree.weighAll weight (out.elements .header) +
        ElementTree.weighAll weight (out.elements .body) +
        ElementTree.weighAll weight (out.elements .footer) := rfl
  rw [hall, Text.lineCount_append, Text.lineCount_append, lineCount_sectionLines,
    lineCount_sectionLines, lineCount_sectionLines, filledSections_eq, hweigh]
  omega

theorem lineCount_title (out : Output) :
    Text.lineCount (if out.title.isEmpty then [] else ["# " ++ out.title]) =
      (if out.title.isEmpty then 0 else 1) + Text.breaks out.title := by
  by_cases hempty : out.title.isEmpty = true
  · rw [if_pos hempty, if_pos hempty, String.isEmpty_iff.mp hempty]
    rfl
  · rw [if_neg hempty, if_neg hempty, Text.lineCount, Text.breaks_append, Text.lineCount,
      show Text.breaks "# " = 0 from rfl]
    omega

/-- **The dump has a line for each part of the output**, and one more for each line break in
the title and in the footnotes where they are printed. -/
theorem length_lines_dump (out : Output) :
    (Text.lines out.dump).length =
      out.extent + Text.breaks out.title + out.weigh (Element.footnoteBreaks out.footnotes) := by
  have hlines : out.dumpLines = (if out.title.isEmpty then [] else ["# " ++ out.title]) ++
      Section.all.flatMap out.sectionLines := rfl
  have hweight : out.weigh (ElementTree.lineWeight out.footnotes) =
      out.weigh (Element.extent out.footnotes) +
        out.weigh (Element.footnoteBreaks out.footnotes) := out.weigh_add _ _
  rw [dump, Text.length_lines_join, hlines, Text.lineCount_append, lineCount_title,
    lineCount_sections, hweight, extent]
  omega

end Output

namespace Report

/-- A footnote with a line break in it, and its text where footnotes are printed. -/
def brokenFootnote : List Template.Node :=
  [.element ⟨.doc, "Doc", ⟨[]⟩, {}⟩
    [.element ⟨.body, "Body", ⟨[]⟩, {}⟩
      [.element ⟨.gedcom, "Gedcom", ⟨[("id", "I1")]⟩, {}⟩
          [.element ⟨.footnote, "Footnote", ⟨[]⟩, {}⟩
            [.text "Census", .element ⟨.br, "br", ⟨[]⟩, {}⟩ [], .text "1900"]],
        .element ⟨.footnoteTexts, "FootnoteTexts", ⟨[]⟩, {}⟩ []]]]

/-- The text of one footnote takes two lines. -/
theorem length_lines_dump_of_brokenFootnote :
    ∃ t, run personWithSource brokenFootnote {} {} = .ok t ∧
      t.output.footnotes.length = 1 ∧ t.output.extent = 3 ∧
      (Text.lines t.output.dump).length = 4 := by
  have hrun : (run personWithSource brokenFootnote {} {}).toOption.map (fun t =>
      (t.output.footnotes.length, t.output.extent, (Text.lines t.output.dump).length)) =
        some (1, 3, 4) := by
    decide +kernel
  cases ht : run personWithSource brokenFootnote {} {} with
  | ok t =>
    rw [ht] at hrun
    obtain ⟨hfootnotes, hrest⟩ := Prod.mk.inj (Option.some.inj hrun)
    obtain ⟨hextent, hlines⟩ := Prod.mk.inj hrest
    exact ⟨t, rfl, hfootnotes, hextent, hlines⟩
  | error failure =>
    rw [ht] at hrun
    cases hrun

end Report

end Lineage
