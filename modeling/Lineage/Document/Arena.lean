import Lineage.Document.Content
import Lineage.Document.Element

/-!
# Documents under construction

While a report is written its elements live in an arena and are known by
number, so that text can still be added to an element that already has its
place. Text boxes refer to their children by number. When the report is
finished the elements of each section are built into trees.
-/

namespace Lineage

/-- The number of an element, in order of creation from 0. -/
abbrev ElementId := Nat

/-- An element of an arena, with the numbers of the elements in it. -/
structure ArenaNode where
  element : Element
  children : List ElementId := []

/-- The elements of a document under construction. -/
structure Arena where
  nodes : Array ArenaNode := #[]

namespace Arena

/-- Adds an element and gives its number. -/
def alloc (arena : Arena) (element : Element) : ElementId × Arena :=
  (arena.nodes.size, ⟨arena.nodes.push { element }⟩)

/-- The element with a number. -/
def get? (arena : Arena) (id : ElementId) : Option Element :=
  arena.nodes[id]?.map ArenaNode.element

/-- The numbers of the elements in a text box, in order. -/
def children (arena : Arena) (id : ElementId) : List ElementId :=
  match arena.nodes[id]? with
  | some node => node.children
  | none => []

/-- Changes an element. -/
def update (arena : Arena) (id : ElementId) (f : Element → Element) : Arena :=
  ⟨arena.nodes.modify id fun node => { node with element := f node.element }⟩

/-- Whether a number belongs to a text box. -/
def isTextBox (arena : Arena) (id : ElementId) : Bool :=
  (arena.get? id).any Element.isTextBox

/-- Puts an element into a text box; none when the parent is no text box. -/
def attach? (arena : Arena) (parent child : ElementId) : Option Arena :=
  if arena.isTextBox parent then
    some ⟨arena.nodes.modify parent fun node => { node with children := node.children ++ [child] }⟩
  else none

/-- The element with everything in it; `depth` bounds the nesting. -/
def treeWithin? (arena : Arena) : Nat → ElementId → Option ElementTree
  | 0, _ => none
  | depth + 1, id =>
    arena.nodes[id]?.map fun node =>
      .node node.element
        (if node.element.isTextBox then node.children.filterMap (treeWithin? arena depth) else [])

/-- The element with everything in it. No element contains itself, so text
boxes are nested at most as deep as there are elements. -/
def tree? (arena : Arena) (id : ElementId) : Option ElementTree :=
  arena.treeWithin? arena.nodes.size id

end Arena

/-- The sections of a document. -/
inductive Section where
  | header
  | body
  | footer
deriving DecidableEq, Repr

namespace Section

/-- All sections, in the order of the page. -/
def all : List Section :=
  [header, body, footer]

/-- The name of a section. -/
def name : Section → String
  | header => "Header"
  | body => "Body"
  | footer => "Footer"

end Section

/-- A document under construction: its elements, and the numbers of those that
stand directly in a section. -/
structure Draft where
  arena : Arena := {}
  header : List ElementId := []
  body : List ElementId := []
  footer : List ElementId := []

namespace Draft

/-- The numbers of the elements of a section, in order. -/
def ids (draft : Draft) : Section → List ElementId
  | .header => draft.header
  | .body => draft.body
  | .footer => draft.footer

/-- Puts an element at the end of a section. -/
def push (draft : Draft) (section_ : Section) (id : ElementId) : Draft :=
  match section_ with
  | .header => { draft with header := draft.header ++ [id] }
  | .body => { draft with body := draft.body ++ [id] }
  | .footer => { draft with footer := draft.footer ++ [id] }

/-- Changes an element of a document. -/
def update (draft : Draft) (id : ElementId) (f : Element → Element) : Draft :=
  { draft with arena := draft.arena.update id f }

/-- The elements of a section with everything in them, in order. -/
def trees (draft : Draft) (section_ : Section) : List ElementTree :=
  (draft.ids section_).filterMap draft.arena.tree?

end Draft

end Lineage
