/-!
# Text styles

Styles are known by name; a later style replaces an earlier one of the same
name.
-/

namespace Lineage

/-- A text style: its name, the font, the letters of its variant (such as `B`
for bold) and its size. -/
structure Style where
  name : String
  font : String
  style : String
  size : Float32

/-- The styles of a document, each name once. -/
structure StyleSheet where
  styles : List Style := []

namespace StyleSheet

/-- Puts a style into a list, in the place of one with the same name. -/
def put (style : Style) : List Style → List Style
  | [] => [style]
  | s :: rest => if s.name = style.name then style :: rest else s :: put style rest

/-- Adds a style. -/
def add (sheet : StyleSheet) (style : Style) : StyleSheet :=
  ⟨put style sheet.styles⟩

/-- The style with a name. -/
def get? (sheet : StyleSheet) (name : String) : Option Style :=
  sheet.styles.find? (·.name == name)

end StyleSheet

end Lineage
