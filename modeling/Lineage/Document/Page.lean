import Lineage.Text.Split

/-!
# Pages

Paper formats, orientation and margins. All lengths are in points, computed in
32-bit arithmetic from inches or millimetres.
-/

namespace Lineage

/-- Points in an inch. -/
def pointsPerInch : Float32 := 72.0

/-- Points in a millimetre. -/
def pointsPerMillimetre : Float32 := 72.0 / 25.4

/-- The paper formats. -/
inductive Paper where
  | a0
  | a1
  | a2
  | a3
  | a4
  | usLetter
  | usLegal
  | usTabloid
deriving DecidableEq, Repr

namespace Paper

/-- The paper with a name; an unknown name stands for A4. -/
def ofName : String → Paper
  | "A0" => a0
  | "A1" => a1
  | "A2" => a2
  | "A3" => a3
  | "US-Letter" => usLetter
  | "US-Legal" => usLegal
  | "US-Tabloid" => usTabloid
  | _ => a4

/-- The name of a paper format. -/
def name : Paper → String
  | a0 => "A0"
  | a1 => "A1"
  | a2 => "A2"
  | a3 => "A3"
  | a4 => "A4"
  | usLetter => "US-Letter"
  | usLegal => "US-Legal"
  | usTabloid => "US-Tabloid"

/-- The name of a paper format in one word. -/
def word : Paper → String
  | usLetter => "UsLetter"
  | usLegal => "UsLegal"
  | usTabloid => "UsTabloid"
  | paper => paper.name

/-- Width and height of the upright paper. -/
def size : Paper → Float32 × Float32
  | a0 => millimetres 841.0 1189.0
  | a1 => millimetres 594.0 841.0
  | a2 => millimetres 420.0 594.0
  | a3 => millimetres 297.0 420.0
  | a4 => millimetres 210.0 297.0
  | usLetter => inches 8.5 11.0
  | usLegal => inches 8.5 14.0
  | usTabloid => inches 11.0 17.0
where
  /-- A size given in millimetres. -/
  millimetres (w h : Float32) : Float32 × Float32 :=
    (w * pointsPerMillimetre, h * pointsPerMillimetre)
  /-- A size given in inches. -/
  inches (w h : Float32) : Float32 × Float32 :=
    (w * pointsPerInch, h * pointsPerInch)

end Paper

/-- How the paper lies. -/
inductive Orientation where
  | portrait
  | landscape
deriving DecidableEq, Repr

namespace Orientation

/-- Reads an orientation; anything but `landscape` or `l` is upright. -/
def ofName (name : String) : Orientation :=
  match Text.asciiLower name with
  | "landscape" | "l" => landscape
  | _ => portrait

/-- The name of an orientation. -/
def name : Orientation → String
  | portrait => "Portrait"
  | landscape => "Landscape"

end Orientation

/-- The margins of a page. -/
structure Margins where
  left : Float32 := 18.0 * pointsPerMillimetre
  right : Float32 := 9.9 * pointsPerMillimetre
  top : Float32 := 26.8 * pointsPerMillimetre
  bottom : Float32 := 21.6 * pointsPerMillimetre
  header : Float32 := 4.9 * pointsPerMillimetre
  footer : Float32 := 9.9 * pointsPerMillimetre

/-- The format of the pages of a document. -/
structure PageSetup where
  paper : Paper := .a4
  orientation : Orientation := .portrait
  customWidth : Option Float32 := none
  customHeight : Option Float32 := none
  margins : Margins := {}
  showGeneratedBy : Bool := false

namespace PageSetup

/-- Width and height of the page as it lies. A custom size counts when both of
its dimensions are positive. -/
def size (page : PageSetup) : Float32 × Float32 :=
  let (w, h) :=
    match page.customWidth, page.customHeight with
    | some w, some h => if w > 0 && h > 0 then (w, h) else page.paper.size
    | _, _ => page.paper.size
  match page.orientation with
  | .portrait => (w, h)
  | .landscape => (h, w)

end PageSetup

end Lineage
