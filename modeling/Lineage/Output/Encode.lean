import Lineage.Json.Printer
import Lineage.Output.Collected

/-!
# JSON of the output

The output as a JSON value, every part with all its fields in a fixed order.
-/

namespace Lineage

open JsonValue (ofFloat32)

/-- The JSON form of a page format. -/
def PageSetup.toJson (page : PageSetup) : JsonValue :=
  let m := page.margins
  .object
    [("paper", .string page.paper.word), ("orientation", .string page.orientation.name),
      ("custom_width", (page.customWidth.map ofFloat32).getD .null),
      ("custom_height", (page.customHeight.map ofFloat32).getD .null),
      ("margins", .object
        [("left", ofFloat32 m.left), ("right", ofFloat32 m.right), ("top", ofFloat32 m.top),
          ("bottom", ofFloat32 m.bottom), ("header", ofFloat32 m.header),
          ("footer", ofFloat32 m.footer)]),
      ("show_generated_by", .bool page.showGeneratedBy)]

/-- The JSON form of a style. -/
def Style.toJson (style : Style) : JsonValue :=
  .object
    [("name", .string style.name), ("font", .string style.font), ("style", .string style.style),
      ("size", ofFloat32 style.size)]

/-- The JSON form of a registered footnote. -/
def FootnoteEntry.toJson (entry : FootnoteEntry) : JsonValue :=
  .object
    [("num", .integer entry.num), ("link", .string entry.link), ("style", .string entry.style),
      ("text", .string entry.text)]

/-- The JSON form of the source of an image. -/
def ImageSource.toJson : ImageSource → JsonValue
  | file path => .object [("kind", .string "file"), ("path", .string path)]
  | media xref path =>
    .object [("kind", .string "media"), ("xref", .string xref), ("path", .string path)]

/-- The members of the JSON form of an element, those of its children given. -/
def Element.members (children : List JsonValue) : Element → List (String × JsonValue)
  | cell c =>
    [("type", .string "cell"), ("width", ofFloat32 c.width), ("height", ofFloat32 c.height),
      ("border", .string c.border), ("align", .string c.align.name),
      ("bgcolor", .string c.bgcolor), ("style", .string c.style), ("newline", .integer c.newline),
      ("top", ofFloat32 c.top), ("left", ofFloat32 c.left), ("fill", .bool c.fill),
      ("stretch", .integer c.stretch), ("bocolor", .string c.bocolor),
      ("tcolor", .string c.tcolor), ("reseth", .bool c.reseth), ("text", .string c.text)]
  | text t =>
    [("type", .string "text"), ("style", .string t.style), ("color", .string t.color),
      ("text", .string t.text)]
  | textBox b =>
    [("type", .string "textBox"), ("width", ofFloat32 b.width), ("height", ofFloat32 b.height),
      ("border", .bool b.border), ("bgcolor", .string b.bgcolor), ("newline", .bool b.newline),
      ("left", ofFloat32 b.left), ("top", ofFloat32 b.top), ("pagecheck", .bool b.pagecheck),
      ("style", .string b.style), ("fill", .bool b.fill), ("padding", .bool b.padding),
      ("reseth", .bool b.reseth), ("children", .array children)]
  | line l =>
    [("type", .string "line"), ("x1", ofFloat32 l.x1), ("y1", ofFloat32 l.y1),
      ("x2", ofFloat32 l.x2), ("y2", ofFloat32 l.y2)]
  | image i =>
    [("type", .string "image"), ("source", i.source.toJson), ("left", ofFloat32 i.left),
      ("top", ofFloat32 i.top), ("width", ofFloat32 i.width), ("height", ofFloat32 i.height),
      ("align", .string i.align.name), ("ln", .string i.ln)]
  | footnote f =>
    [("type", .string "footnote"), ("style", .string f.style), ("text", .string f.text),
      ("num", .integer f.num), ("link", .string f.link)]
  | footnoteTexts => [("type", .string "footnoteTexts")]
  | newPage => [("type", .string "newPage")]

mutual

/-- The JSON form of an element with everything in it. -/
def ElementTree.toJson : ElementTree → JsonValue
  | node e children => .object (e.members (ElementTree.toJsonAll children))

/-- The JSON forms of a list of elements. -/
def ElementTree.toJsonAll : List ElementTree → List JsonValue
  | [] => []
  | tree :: rest => tree.toJson :: ElementTree.toJsonAll rest

end

/-- The JSON form of the output. -/
def Output.toJson (out : Output) : JsonValue :=
  .object
    [("page", (out.page.map PageSetup.toJson).getD .null),
      ("styles", .object (out.styles.styles.map fun style => (style.name, style.toJson))),
      ("header", .array (ElementTree.toJsonAll out.header)),
      ("body", .array (ElementTree.toJsonAll out.body)),
      ("footer", .array (ElementTree.toJsonAll out.footer)),
      ("title", .string out.title), ("description", .string out.description),
      ("footnotes", .array (out.footnotes.map FootnoteEntry.toJson)),
      ("finished", .bool out.finished)]

end Lineage
