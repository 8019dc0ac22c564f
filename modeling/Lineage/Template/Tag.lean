/-!
# The elements of a report template

Every element name that has a meaning of its own. All other elements are
transparent: they do nothing, and what is in them is still carried out.
-/

namespace Lineage.Template

/-- The meaning of an element name. -/
inductive Tag where
  | doc
  | style
  | header
  | body
  | footer
  | cell
  | textBox
  | text
  | now
  | pageNum
  | totalPages
  | gedcom
  | getPersonName
  | gedcomValue
  | repeatTag
  | var
  | facts
  | setVar
  | ifTag
  | footnote
  | footnoteTexts
  | br
  | highlightedImage
  | image
  | line
  | list
  | listTotal
  | relatives
  | generation
  | newPage
  | title
  | description
  | other
deriving DecidableEq, Repr

namespace Tag

/-- The meaning of an element name. -/
def ofName : String → Tag
  | "Doc" => doc
  | "Style" => style
  | "Header" => header
  | "Body" => body
  | "Footer" => footer
  | "Cell" => cell
  | "TextBox" => textBox
  | "Text" => text
  | "Now" => now
  | "PageNum" => pageNum
  | "TotalPages" => totalPages
  | "Gedcom" => gedcom
  | "GetPersonName" => getPersonName
  | "GedcomValue" => gedcomValue
  | "RepeatTag" => repeatTag
  | "Var" => var
  | "Facts" => facts
  | "SetVar" => setVar
  | "if" | "If" => ifTag
  | "Footnote" => footnote
  | "FootnoteTexts" => footnoteTexts
  | "br" => br
  | "HighlightedImage" => highlightedImage
  | "Image" => image
  | "Line" => line
  | "List" => list
  | "ListTotal" => listTotal
  | "Relatives" => relatives
  | "Generation" => generation
  | "NewPage" => newPage
  | "Title" => title
  | "Description" => description
  | _ => other

/-- Whether what is in the element is carried out once for each of a number of
items. -/
def isRepeat : Tag → Bool
  | repeatTag | facts | list | relatives => true
  | _ => false

/-- The attribute that an element cannot do without. -/
def required? : Tag → Option String
  | style | setVar => some "name"
  | var => some "var"
  | _ => none

end Tag

end Lineage.Template
