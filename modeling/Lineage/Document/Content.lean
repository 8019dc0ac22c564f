import Lineage.Text.Split

/-!
# Text that goes into a document

Text from a template may hold simple markup. Before a chunk of text joins the
text of an element, its outer line breaks and tabs are removed, `<br>` becomes
a line break and `&nbsp;` a fixed space, and everything else between angle
brackets is left out.
-/

namespace Lineage.Content

/-- Leaves out what stands between an angle bracket and the next closing one,
both included; an opening bracket that is never closed stays. `inside` tells
whether the text starts within brackets. -/
def stripMarkup (inside : Bool) : List Char → List Char
  | [] => []
  | c :: rest =>
    if inside then stripMarkup (c != '>') rest
    else if c = '<' ∧ rest.contains '>' then stripMarkup true rest
    else c :: stripMarkup false rest

/-- The line breaks and tabs that are removed at both ends of a chunk. -/
def isEdge (c : Char) : Bool :=
  c == '\r' || c == '\n' || c == '\t'

/-- The form in which a chunk of text joins the text of an element. -/
def chunk (text : String) : String :=
  let inner := Chars.stripWhile isEdge text.toList
  let broken := Chars.replace "<br>".toList ['\n'] inner
  let spaced := Chars.replace "&nbsp;".toList ['\u00A0'] broken
  .ofList (stripMarkup false spaced)

end Lineage.Content
