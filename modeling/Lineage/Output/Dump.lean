import Lineage.Output.Collected

/-!
# Plain text of the output

A readable dump with one line for each element, indented inside text boxes.
-/

namespace Lineage

namespace ElementTree

mutual

/-- The texts of the cells and of the running text in an element, in order. -/
def texts : ElementTree → List String
  | node e children =>
    match e with
    | .textBox _ => textsAll children
    | .cell c => [c.text]
    | .text t => [t.text]
    | _ => []

/-- The texts of a list of elements. -/
def textsAll : List ElementTree → List String
  | [] => []
  | tree :: rest => tree.texts ++ textsAll rest

end

/-- The indentation of a level. -/
def indent (depth : Nat) : String :=
  .ofList (List.replicate (2 * depth) ' ')

/-- The line for a text. A line break in it is written as a slash. -/
def textLine (depth : Nat) (name text : String) : String :=
  indent depth ++ name ++ ": " ++ Text.replace "\n" " / " text

mutual

/-- The lines of an element at a level. Where footnote texts are printed there
is a line for each footnote. -/
def dumpLines (footnotes : List FootnoteEntry) (depth : Nat) : ElementTree → List String
  | node e children =>
    match e with
    | .textBox _ => (indent depth ++ "TextBox") :: dumpAll footnotes (depth + 1) children
    | .footnote f => [indent depth ++ "Footnote [" ++ toString f.num ++ "]"]
    | .footnoteTexts =>
      footnotes.map fun entry => indent depth ++ toString entry.num ++ ". " ++ entry.text
    | .line _ | .newPage | .image _ => [indent depth ++ e.name]
    | .cell c => [textLine depth "Cell" c.text]
    | .text t => [textLine depth "Text" t.text]

/-- The lines of a list of elements. -/
def dumpAll (footnotes : List FootnoteEntry) (depth : Nat) : List ElementTree → List String
  | [] => []
  | tree :: rest => dumpLines footnotes depth tree ++ dumpAll footnotes depth rest

end

end ElementTree

namespace Output

/-- The texts of the cells and of the running text of a section, in order. -/
def texts (out : Output) (section_ : Section) : List String :=
  ElementTree.textsAll (out.elements section_)

/-- The lines of the dump: the title, if there is one, and each section that
has elements, under its name. -/
def dumpLines (out : Output) : List String :=
  (if out.title.isEmpty then [] else ["# " ++ out.title]) ++
    Section.all.flatMap fun s =>
      match out.elements s with
      | [] => []
      | trees => ("[" ++ s.name ++ "]") :: ElementTree.dumpAll out.footnotes 1 trees

/-- The dump, every line ended by a line feed. -/
def dump (out : Output) : String :=
  String.join (out.dumpLines.map (· ++ "\n"))

end Output

end Lineage
