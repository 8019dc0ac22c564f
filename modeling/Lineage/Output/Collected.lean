import Lineage.Document.Arena
import Lineage.Document.Footnote
import Lineage.Document.Page
import Lineage.Document.Style

/-!
# Collected output

What a report hands over when it is finished: the page format, the styles, the
elements of each section, the title and the footnotes. The output also knows
which images can be used and whether the document runs from right to left.
-/

namespace Lineage

/-- What can go wrong when a document is finished. -/
inductive OutputError where
  | alreadyFinished
deriving DecidableEq, Repr

/-- The text of an error. -/
def OutputError.message : OutputError → String
  | alreadyFinished => "document already finished"

/-- The output of a report. -/
structure Output where
  page : Option PageSetup := none
  styles : StyleSheet := {}
  header : List ElementTree := []
  body : List ElementTree := []
  footer : List ElementTree := []
  title : String := ""
  description : String := ""
  footnotes : List FootnoteEntry := []
  finished : Bool := false
  images : List (String × Float32 × Float32) := []
  rtl : Bool := false

namespace Output

/-- The font of text without a style. -/
def defaultFont : String := "dejavusans"

/-- The font size of text without a style. -/
def defaultFontSize : Float32 := 12.0

/-- Makes an image usable, with its own size; a later size replaces an earlier
one. -/
def withImage (out : Output) (path : String) (size : Float32 × Float32) : Output :=
  { out with images := (path, size) :: out.images }

/-- The size of a usable image. -/
def imageSize? (out : Output) (path : String) : Option (Float32 × Float32) :=
  out.images.lookup path

/-- The elements of a section. -/
def elements (out : Output) : Section → List ElementTree
  | .header => out.header
  | .body => out.body
  | .footer => out.footer

/-- Adds an element at the end of a section. -/
def add (out : Output) (section_ : Section) (tree : ElementTree) : Output :=
  match section_ with
  | .header => { out with header := out.header ++ [tree] }
  | .body => { out with body := out.body ++ [tree] }
  | .footer => { out with footer := out.footer ++ [tree] }

/-- Adds the elements of all sections of a document. -/
def addDraft (out : Output) (draft : Draft) : Output :=
  Section.all.foldl (fun out s => (draft.trees s).foldl (fun out t => out.add s t) out) out

/-- Finishes the document, which can be done once. -/
def finish (out : Output) (footnotes : FootnoteTable) : Except OutputError Output :=
  if out.finished then .error .alreadyFinished
  else .ok { out with footnotes := footnotes.entries, finished := true }

end Output

end Lineage
