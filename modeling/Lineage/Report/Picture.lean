import Lineage.Report.Condition
import Lineage.Template.Measure

/-!
# Images

An image comes from a file that is named, or from a media record that the
active text links to. One whose size is not known is left out.
-/

namespace Lineage.Report

/-- Where an image goes, and the size it should have. -/
structure Placement where
  left : Float32
  top : Float32
  width : Float32
  height : Float32
  align : Align
  ln : String

/-- The placement that an element asks for. -/
def placementOf (rtl : Bool) (attrs : Attributes) : Placement :=
  { left := attrs.length "left" currentPosition
    top := attrs.length "top" currentPosition
    width := attrs.length "width" 0.0
    height := attrs.length "height" 0.0
    align := .ofName (attrs.getD "align" "") rtl
    ln := attrs.getD "ln" "T" }

/-- An image in its place, `own` being its own size. -/
def Placement.image (p : Placement) (source : ImageSource) (own : Float32 × Float32) : Image :=
  let (width, height) := Image.fitSize p.width p.height own
  { source, left := p.left, top := p.top, width, height, align := p.align, ln := p.ln }

/-- Whether a file name ends like that of an image. -/
def isImageFile (file : String) : Bool :=
  ["jpg", "jpeg", "png", "gif"].any fun ending =>
    (Text.before? ending (Text.asciiLower file)).isSome

namespace State

/-- Adds the image of a media record. -/
def addMedia (env : Environment) (placement : Placement) (xref : String) (s : State) : State :=
  match env.store.mediaFile? xref with
  | none => s
  | some media =>
    match media.size.or (s.output.imageSize? media.path) with
    | none => s
    | some own => s.addElement (.image (placement.image (.media media.xref media.path) own))

/-- Adds an image; `@FILE` stands for the first media record that the active
text links to. -/
def addImage (env : Environment) (attrs : Attributes) (s : State) : State :=
  let placement := placementOf s.output.rtl attrs
  let file := attrs.getD "file" ""
  if file = "@FILE" then
    match Leveled.mediaXref? s.active.text with
    | some xref => s.addMedia env placement xref
    | none => s
  else if isImageFile file then
    match s.output.imageSize? file with
    | some own => s.addElement (.image (placement.image (.file file) own))
    | none => s
  else s

/-- Adds the image of the first media record of the active record. -/
def addHighlightedImage (env : Environment) (attrs : Attributes) (s : State) : State :=
  match s.active.xref?.bind env.store.record? with
  | none => s
  | some record =>
    match record.links "OBJE" with
    | [] => s
    | xref :: _ => s.addMedia env (placementOf s.output.rtl attrs) xref

end State

end Lineage.Report
