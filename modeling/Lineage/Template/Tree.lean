import Lineage.Markup.Location
import Lineage.Template.Attributes
import Lineage.Template.Tag

/-!
# Templates as trees

A compiled template is a list of nodes: text, and elements with their
attributes, their location in the source and the nodes in them.
-/

namespace Lineage.Template

/-- An element without the nodes in it. -/
structure Head where
  tag : Tag
  name : String
  attributes : Attributes
  location : Location
deriving DecidableEq, Repr

/-- A node of a template. -/
inductive Node where
  | text (s : String)
  | element (head : Head) (children : List Node)

namespace Node

mutual

/-- The first element with a tag at or below a node, from the outside in. -/
def find? (tag : Tag) : Node → Option Head
  | text _ => none
  | element head children => if head.tag = tag then some head else findIn? tag children

/-- The first element with a tag in a list of nodes. -/
def findIn? (tag : Tag) : List Node → Option Head
  | [] => none
  | node :: rest =>
    match find? tag node with
    | some head => some head
    | none => findIn? tag rest

end

mutual

/-- The number of elements at or below a node. -/
def count : Node → Nat
  | text _ => 0
  | element _ children => 1 + countAll children

/-- The number of elements in a list of nodes. -/
def countAll : List Node → Nat
  | [] => 0
  | node :: rest => count node + countAll rest

end

end Node

end Lineage.Template
