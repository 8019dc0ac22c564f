import Lineage.Output.Collected

/-!
# The extent of the output

How much the output holds, counted without looking at how it is printed: the title, the
sections that are not empty, and the elements at any depth inside text boxes. Where
footnote texts are printed the footnotes are counted instead. The line breaks in texts are
counted apart.
-/

namespace Lineage

/-- The number of line breaks in a text. -/
def Text.breaks (s : String) : Nat :=
  s.toList.count '\n'

/-- The number of line breaks in the texts of footnotes. -/
def FootnoteEntry.breaksIn : List FootnoteEntry → Nat
  | [] => 0
  | entry :: rest => Text.breaks entry.text + breaksIn rest

namespace Element

/-- What counts in the place of an element: itself, or all of the footnotes. -/
def extent (footnotes : List FootnoteEntry) : Element → Nat
  | footnoteTexts => footnotes.length
  | _ => 1

/-- The line breaks of the footnotes where they are printed. -/
def footnoteBreaks (footnotes : List FootnoteEntry) : Element → Nat
  | footnoteTexts => FootnoteEntry.breaksIn footnotes
  | _ => 0

end Element

namespace ElementTree

mutual

/-- The weight of an element together with all elements inside of it, if it is a text
box. -/
def weigh (weight : Element → Nat) : ElementTree → Nat
  | node e children =>
    match e with
    | .textBox box => weight (.textBox box) + weighAll weight children
    | e => weight e

/-- The weight of a list of elements. -/
def weighAll (weight : Element → Nat) : List ElementTree → Nat
  | [] => 0
  | tree :: rest => tree.weigh weight + weighAll weight rest

end

end ElementTree

namespace Output

/-- The weight of the elements of all sections. -/
def weigh (out : Output) (weight : Element → Nat) : Nat :=
  ElementTree.weighAll weight out.header + ElementTree.weighAll weight out.body +
    ElementTree.weighAll weight out.footer

/-- The number of sections that have elements. -/
def filledSections (out : Output) : Nat :=
  (Section.all.filter fun s => !(out.elements s).isEmpty).length

/-- One for a title, one for each section that has elements, and one for each element at
any depth inside text boxes, or as many as there are footnotes where those are printed. -/
def extent (out : Output) : Nat :=
  (if out.title.isEmpty then 0 else 1) + out.filledSections +
    out.weigh (Element.extent out.footnotes)

end Output

end Lineage
