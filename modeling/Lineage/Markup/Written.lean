import Lineage.Text.CharSet

/-!
# Written markup

How names, text and tags are written: what may be a name in markup, the three
characters that are written as references, and attributes in double quotes, each
behind a space.
-/

namespace Lineage.Markup

/-- The characters that a name starts with. -/
def nameStartChars : CharSet :=
  ⟨[(0x3A, 0x3A), (0x41, 0x5A), (0x5F, 0x5F), (0x61, 0x7A), (0xC0, 0xD6), (0xD8, 0xF6),
    (0xF8, 0x2FF), (0x370, 0x37D), (0x37F, 0x1FFF), (0x200C, 0x200D), (0x2070, 0x218F),
    (0x2C00, 0x2FEF), (0x3001, 0xD7FF), (0xF900, 0xFDCF), (0xFDF0, 0xFFFD), (0x10000, 0xEFFFF)]⟩

/-- The characters of a name: those that it may start with, digits, the hyphen, the
dot and some marks. -/
def nameChars : CharSet :=
  ⟨[(0x2D, 0x2E), (0x30, 0x3A), (0x41, 0x5A), (0x5F, 0x5F), (0x61, 0x7A), (0xB7, 0xB7),
    (0xC0, 0xD6), (0xD8, 0xF6), (0xF8, 0x37D), (0x37F, 0x1FFF), (0x200C, 0x200D),
    (0x203F, 0x2040), (0x2070, 0x218F), (0x2C00, 0x2FEF), (0x3001, 0xD7FF), (0xF900, 0xFDCF),
    (0xFDF0, 0xFFFD), (0x10000, 0xEFFFF)]⟩

/-- Whether a text is a name of an element or an attribute. -/
structure IsName (s : String) : Prop where
  starts : s.toList.head?.any nameStartChars.contains = true
  chars : s.toList.all nameChars.contains = true

/-- The reference that a character is written as, or the character itself. -/
def escapedChar (c : Char) : List Char :=
  if c = '&' then "&amp;".toList
  else if c = '<' then "&lt;".toList
  else if c = '"' then "&quot;".toList
  else [c]

/-- A text as it is written between tags and between quotes. -/
def escaped (cs : List Char) : List Char :=
  cs.flatMap escapedChar

/-- The text of an attribute. -/
def attributeText (key value : String) : List Char :=
  ' ' :: (key.toList ++ '=' :: '"' :: (escaped value.toList ++ ['"']))

/-- The text of attributes. -/
def attributesText : List (String × String) → List Char
  | [] => []
  | (key, value) :: rest => attributeText key value ++ attributesText rest

/-- The content of an opening tag. -/
def tagText (name : String) (attributes : List (String × String)) : List Char :=
  name.toList ++ attributesText attributes

end Lineage.Markup
