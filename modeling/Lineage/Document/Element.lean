import Lineage.Text.Split

/-!
# Elements of a document

The building blocks of a report: cells, running text, text boxes, lines,
images, footnote marks, the place where footnote texts are printed, and page
breaks. A text box holds further elements, which makes an element with
everything in it a tree.
-/

namespace Lineage

/-- The position that stands for wherever the page is being filled. -/
def currentPosition : Float32 := -1.0

/-- How text or an image is aligned. -/
inductive Align where
  | none
  | left
  | right
  | center
  | justify
deriving DecidableEq, Repr

namespace Align

/-- Reads an alignment. Two of its names depend on the direction of the
document and flip from right to left. -/
def ofName (name : String) (rtl : Bool) : Align :=
  match Text.asciiLower name with
  | "left" | "l" => left
  | "right" | "r" => right
  | "center" | "c" => center
  | "justify" | "j" => justify
  | "leftrtl" => if rtl then right else left
  | "rightrtl" => if rtl then left else right
  | _ => none

/-- The letter for an alignment. -/
def code : Align → String
  | none => ""
  | left => "L"
  | right => "R"
  | center => "C"
  | justify => "J"

/-- The name of an alignment. -/
def name : Align → String
  | none => "None"
  | left => "Left"
  | right => "Right"
  | center => "Center"
  | justify => "Justify"

end Align

/-- A cell with text. -/
structure Cell where
  width : Float32 := 0.0
  height : Float32 := 0.0
  border : String := ""
  align : Align := .none
  bgcolor : String := ""
  style : String := ""
  newline : Int := 0
  top : Float32 := currentPosition
  left : Float32 := currentPosition
  fill : Bool := false
  stretch : Int := 0
  bocolor : String := ""
  tcolor : String := ""
  reseth : Bool := true
  text : String := ""

/-- Running text. -/
structure TextRun where
  style : String := ""
  color : String := ""
  text : String := ""

/-- The frame of a text box. -/
structure TextBox where
  width : Float32 := 0.0
  height : Float32 := 0.0
  border : Bool := false
  bgcolor : String := ""
  newline : Bool := false
  left : Float32 := currentPosition
  top : Float32 := currentPosition
  pagecheck : Bool := true
  style : String := ""
  fill : Bool := false
  padding : Bool := true
  reseth : Bool := false

/-- A straight line. -/
structure Line where
  x1 : Float32 := currentPosition
  y1 : Float32 := currentPosition
  x2 : Float32 := currentPosition
  y2 : Float32 := currentPosition

/-- Where an image comes from: a file, or a media record of the tree. -/
inductive ImageSource where
  | file (path : String)
  | media (xref path : String)
deriving DecidableEq, Repr

/-- An image. `ln` tells whether what follows stays on the line (`T`) or goes
to the next one (`N`). -/
structure Image where
  source : ImageSource
  left : Float32 := 0.0
  top : Float32 := 0.0
  width : Float32 := 0.0
  height : Float32 := 0.0
  align : Align := .none
  ln : String := ""

namespace Image

/-- The size of an image on the page, from the requested size and its own. One
requested dimension scales the other, in whole units; otherwise the image
keeps its own size. -/
def fitSize (width height : Float32) (own : Float32 × Float32) : Float32 × Float32 :=
  let (w, h) := own
  if width > 0 && height == 0 && w > 0 then (width, (h * width / w).round)
  else if height > 0 && width == 0 && h > 0 then ((w * height / h).round, height)
  else (w, h)

end Image

/-- The mark of a footnote. Its number is 0 until the footnote is
registered. -/
structure FootnoteMark where
  style : String
  text : String := ""
  num : Nat := 0
  link : String := ""

/-- An unregistered footnote mark; the empty style stands for the usual one. -/
def FootnoteMark.ofStyle (style : String) : FootnoteMark :=
  { style := if style.isEmpty then "footnote" else style }

/-- An element without what it may contain. -/
inductive Element where
  | cell (cell : Cell)
  | text (run : TextRun)
  | textBox (box : TextBox)
  | line (line : Line)
  | image (image : Image)
  | footnote (mark : FootnoteMark)
  | footnoteTexts
  | newPage

namespace Element

/-- The name of the kind of an element. -/
def name : Element → String
  | cell _ => "Cell"
  | text _ => "Text"
  | textBox _ => "TextBox"
  | line _ => "Line"
  | image _ => "Image"
  | footnote _ => "Footnote"
  | footnoteTexts => "FootnoteTexts"
  | newPage => "NewPage"

/-- The text of the elements that have one. -/
def text? : Element → Option String
  | cell c => some c.text
  | text t => some t.text
  | footnote f => some f.text
  | _ => none

/-- Appends to the text; an element without one stays as it is. -/
def append (s : String) : Element → Element
  | cell c => cell { c with text := c.text ++ s }
  | text t => text { t with text := t.text ++ s }
  | footnote f => footnote { f with text := f.text ++ s }
  | e => e

/-- Whether an element is a text box. -/
def isTextBox : Element → Bool
  | textBox _ => true
  | _ => false

end Element

/-- An element together with the elements in it. -/
inductive ElementTree where
  | node (element : Element) (children : List ElementTree)

namespace ElementTree

/-- The element at the root. -/
def element : ElementTree → Element
  | node e _ => e

/-- The elements in it. -/
def children : ElementTree → List ElementTree
  | node _ cs => cs

end ElementTree

end Lineage
