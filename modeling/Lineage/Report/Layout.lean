import Lineage.Report.Outcome
import Lineage.Template.Measure

/-!
# Pages, sections and layout

The elements that make up the page: the document itself, its sections and
styles, cells, running text, text boxes, lines, and the marks inside text.
-/

namespace Lineage.Report

/-- The page format that a document asks for. -/
def pageSetup (paper : Paper) (attrs : Attributes) : PageSetup :=
  let usual : Margins := {}
  { paper := ((attrs.nonEmpty? "pageSize").map Paper.ofName).getD paper
    orientation := .ofName (attrs.getD "orientation" "portrait")
    customWidth := (attrs.nonEmpty? "customwidth").map fun w => (leadingNumber w).toFloat32
    customHeight := (attrs.nonEmpty? "customheight").map fun h => (leadingNumber h).toFloat32
    margins :=
      { left := attrs.length "leftmargin" usual.left
        right := attrs.length "rightmargin" usual.right
        top := attrs.length "topmargin" usual.top
        bottom := attrs.length "bottommargin" usual.bottom
        header := attrs.length "headermargin" usual.header
        footer := attrs.length "footermargin" usual.footer }
    showGeneratedBy := attrs.switch "showGeneratedBy" true }

/-- The style that an element defines. -/
def styleOf (attrs : Attributes) : Style :=
  { name := attrs.getD "name" ""
    font := (attrs.nonEmpty? "font").getD Output.defaultFont
    style := attrs.getD "style" ""
    size :=
      match attrs.nonEmpty? "size" with
      | some size => (leadingNumber size).toFloat32
      | none => Output.defaultFontSize }

/-- The cell that an element asks for. -/
def cellOf (rtl : Bool) (attrs : Attributes) : Cell :=
  { width := attrs.length "width" 0.0
    height := attrs.length "height" 0.0
    border := attrs.getD "border" ""
    align := .ofName (attrs.getD "align" "") rtl
    bgcolor := attrs.getD "bgcolor" ""
    style := attrs.getD "style" ""
    newline := attrs.whole "newline" 0
    top := attrs.length "top" currentPosition
    left := attrs.length "left" currentPosition
    fill := attrs.switch "fill" false
    stretch := attrs.whole "stretch" 0
    bocolor := attrs.getD "bocolor" ""
    tcolor := attrs.getD "tcolor" ""
    reseth := attrs.switch "reseth" true }

/-- The running text that an element asks for. -/
def textRunOf (attrs : Attributes) : TextRun :=
  { style := attrs.getD "style" "", color := attrs.getD "color" "" }

/-- The text box that an element asks for. -/
def textBoxOf (attrs : Attributes) : TextBox :=
  { width := attrs.length "width" 0.0
    height := attrs.length "height" 0.0
    border := attrs.switch "border" false
    bgcolor := attrs.getD "bgcolor" ""
    newline := attrs.switch "newline" false
    left := attrs.length "left" currentPosition
    top := attrs.length "top" currentPosition
    pagecheck := attrs.switch "pagecheck" true
    fill := attrs.switch "fill" false
    padding := attrs.switch "padding" true
    reseth := attrs.switch "reseth" false }

/-- The line that an element asks for. -/
def lineOf (attrs : Attributes) : Line :=
  { x1 := attrs.length "x1" currentPosition
    y1 := attrs.length "y1" currentPosition
    x2 := attrs.length "x2" currentPosition
    y2 := attrs.length "y2" currentPosition }

namespace State

/-- The start of the document. -/
def beginDocument (env : Environment) (attrs : Attributes) (s : State) : State :=
  { s with output.page := some (pageSetup env.paper attrs) }

/-- The end of the document, whose elements are handed over. -/
def endDocument (s : State) : Outcome :=
  let output := s.output.addDraft s.draft
  match output.finish s.footnotes with
  | .ok output => .ok { s with output }
  | .error cause => .error ⟨.output cause, { s with output }⟩

/-- Defines a style. -/
def defineStyle (attrs : Attributes) (s : State) : State :=
  { s with output.styles := s.output.styles.add (styleOf attrs) }

/-- Goes on in a section. -/
def enterSection (place : Section) (s : State) : State :=
  { s with place }

/-- Opens an element that text is printed into. -/
def beginText (element : Element) (s : State) : State :=
  let (id, s) := (s.beginPrinting true).create element
  { s with current := some id }

/-- Closes an element that text was printed into: the filled element gets its
place. -/
def endText (s : State) : State :=
  let s := s.endPrinting
  match s.current with
  | some id => s.attach id
  | none => s

/-- Opens a text box. -/
def beginBox (attrs : Attributes) (s : State) : State :=
  let (id, s) := (s.beginPrinting false).create (.textBox (textBoxOf attrs))
  { s with containers := id :: s.containers }

/-- Closes a text box. -/
def endBox (s : State) : State :=
  let s := s.endPrinting
  match s.containers with
  | [] => s
  | id :: rest => { s with containers := rest, current := some id }.attach id

/-- Starts a new line, where text is printed. -/
def breakLine (s : State) : State :=
  if s.prints then s.addText "<br>" else s

end State

end Lineage.Report
