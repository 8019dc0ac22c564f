import Lineage.Text.Split

/-!
# The footnotes of a document

Footnotes are registered by their text: the same text, blanks at the ends
aside, gets the same number. Entries are numbered from 1 in the order of their
first appearance and are never removed.
-/

namespace Lineage

/-- A registered footnote. -/
structure FootnoteEntry where
  num : Nat
  link : String
  style : String
  text : String
deriving DecidableEq, Repr

/-- The registered footnotes, by number. -/
structure FootnoteTable where
  entries : List FootnoteEntry := []
deriving DecidableEq, Repr

namespace FootnoteTable

/-- The name under which a footnote is linked. -/
def linkFor (num : Nat) : String :=
  "footnote-" ++ toString num

/-- Registers a text and gives its entry; a text that is registered already
keeps its entry and its first style. -/
def register (table : FootnoteTable) (text style : String) : FootnoteEntry × FootnoteTable :=
  let text := Text.trim text
  match table.entries.find? (·.text == text) with
  | some entry => (entry, table)
  | none =>
    let num := table.entries.length + 1
    let entry := ⟨num, linkFor num, style, text⟩
    (entry, ⟨table.entries ++ [entry]⟩)

end FootnoteTable

end Lineage
