import Lineage.Leveled.Link
import Lineage.Report.Outcome
import Lineage.Template.Attributes

/-!
# Footnotes in a report

A footnote cites the record that the active text links to. One on a record
that is missing or may not be seen is skipped with everything in it, and one
with hardly any text is dropped at its end.
-/

namespace Lineage.Report

/-- The size in bytes that the text of a footnote must have. -/
def leastFootnoteSize : Nat := 4

namespace State

/-- The start of a footnote that is skipped. -/
def skipFootnote (s : State) : State :=
  { s with
    suppression.footnotes := s.suppression.footnotes + 1
    footnoteFrames := .hidden :: s.footnoteFrames }

/-- The start of a footnote that is filled. -/
def openFootnote (style : String) (s : State) : State :=
  let previous := s.current
  let (id, s) := (s.beginPrinting true).create (.footnote (.ofStyle style))
  { s with current := some id, footnoteFrames := .visible id previous :: s.footnoteFrames }

/-- The start of a footnote. -/
def beginFootnote (env : Environment) (attrs : Attributes) (s : State) : State :=
  if 0 < s.suppression.footnotes then s.skipFootnote
  else
    match (Leveled.citedXref? s.active.text).bind env.store.record? with
    | none => s.skipFootnote
    | some record =>
      if env.store.canShow record then s.openFootnote (attrs.getD "style" "")
      else s.skipFootnote

/-- Registers a footnote, writes its number into its mark and places it. -/
def placeFootnote (s : State) (id : ElementId) (text : String) : State :=
  let style :=
    match s.draft.arena.get? id with
    | some (.footnote mark) => mark.style
    | _ => ""
  let (entry, footnotes) := s.footnotes.register text style
  let number : Element → Element
    | .footnote mark => .footnote { mark with num := entry.num, link := entry.link }
    | element => element
  { s with footnotes, draft := s.draft.update id number }.attach id

/-- The end of a footnote. -/
def endFootnote (s : State) : State :=
  match s.footnoteFrames with
  | [] => s
  | .hidden :: rest =>
    { s with
      footnoteFrames := rest
      suppression.footnotes := s.suppression.footnotes - 1 }
  | .visible id previous :: rest =>
    let s := { s with footnoteFrames := rest }.endPrinting
    let text := Text.trim (s.textOf id)
    let s := if leastFootnoteSize ≤ text.utf8ByteSize then s.placeFootnote id text else s
    { s with current := previous }

end State

end Lineage.Report
