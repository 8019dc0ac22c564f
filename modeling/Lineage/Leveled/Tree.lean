import Lineage.Text.Split

/-!
# Trees of lines

The tree that a block of lines is the text of: every line is one level below the
line that it is nested in. Tags and values carry what lets them stand on a line: a
tag has neither blanks nor colons, so that it ends where the value begins and can be
part of a path, and a value is a single line without blanks at its ends.

`Tree.text` writes a tree as a block, and `Tree.valueAt` reads a value along a path
of tags from the tree itself.
-/

namespace Lineage.Leveled

/-- A tag. -/
structure Tag where
  text : String
  nonempty : text.toList ≠ []
  plain : (text.toList.all fun c => !Chars.isBlank c && c != ':') = true

/-- What may stand behind a tag on its line. -/
structure Content where
  text : String
  single : '\n' ∉ text.toList
  trimmed : Text.trim text = text

/-- A line with the lines nested in it. A line without content ends with its tag;
with an empty one it ends with the space behind the tag. -/
inductive Tree where
  | node (tag : Tag) (content : Option Content) (children : List Tree)

namespace Tree

def tag : Tree → Tag
  | node tag _ _ => tag

def content : Tree → Option Content
  | node _ content _ => content

def children : Tree → List Tree
  | node _ _ children => children

/-! ## The tree as a text -/

/-- The line of a tag with its content. -/
def lineOf (level : Nat) (tag : Tag) : Option Content → String
  | none => toString level ++ " " ++ tag.text
  | some content => toString level ++ " " ++ tag.text ++ " " ++ content.text

mutual

/-- The lines of a tree whose root has the given level. -/
def lines (level : Nat) : Tree → List String
  | node tag content children => lineOf level tag content :: linesAll (level + 1) children

/-- The lines of trees that follow each other at one level. -/
def linesAll (level : Nat) : List Tree → List String
  | [] => []
  | tree :: rest => tree.lines level ++ linesAll level rest

end

/-- The block of lines of a tree whose root has the given level. -/
def text (level : Nat) (tree : Tree) : String :=
  Text.unlines (tree.lines level)

mutual

/-- How many levels there are below the root. -/
def depth : Tree → Nat
  | node _ _ children => depthAll children

/-- How many levels trees that follow each other take up. -/
def depthAll : List Tree → Nat
  | [] => 0
  | tree :: rest => max (tree.depth + 1) (depthAll rest)

end

/-! ## Values -/

/-- The text behind the tag, empty where there is none. -/
def contentText (tree : Tree) : String :=
  match tree.content with
  | none => ""
  | some content => content.text

/-- The first child with a tag. -/
def child? (tree : Tree) (tag : String) : Option Tree :=
  tree.children.find? fun child => child.tag.text = tag

/-- The child that a tag of a path leads to: an abbreviation stands in for a
missing title. -/
def childFor? (tree : Tree) (tag : String) : Option Tree :=
  (tree.child? tag).or (if tag = "TITL" then tree.child? "ABBR" else none)

/-- The descendant that a path of tags leads to. -/
def descendant? : Tree → List Tag → Option Tree
  | tree, [] => some tree
  | tree, tag :: path =>
    match tree.childFor? tag.text with
    | none => none
    | some child => child.descendant? path

/-- The reference between two signs `@` that a text consists of. -/
def referenced? (text : String) : Option String :=
  match text.toList with
  | '@' :: c :: rest =>
    if rest.getLast? = some '@' then some (.ofList ((c :: rest).dropLast)) else none
  | _ => none

/-- The content of a line; for a note that consists of a reference, the text of the
note or else the bare reference. -/
def resolved (noteText : String → Option String) (tree : Tree) : String :=
  if tree.tag.text = "NOTE" then
    match referenced? tree.contentText with
    | some xref => (noteText xref).getD xref
    | none => tree.contentText
  else tree.contentText

/-- The value of a line: its content, and that of each of its direct continuation
lines after a line break. -/
def value (noteText : String → Option String) (tree : Tree) : String :=
  tree.resolved noteText ++
    String.join ((tree.children.filter fun child => child.tag.text = "CONT").map
      fun child => "\n" ++ child.contentText)

/-- The tags whose value loses its slashes, where one of them is the whole path. -/
def nameTags : List String :=
  ["NAME", "_MARNM", "_AKA"]

/-- The value at a path of tags, empty where the path leads nowhere. -/
def valueAt (path : List Tag) (noteText : String → Option String) (tree : Tree) : String :=
  match tree.descendant? path with
  | none => ""
  | some found =>
    if path.map Tag.text ∈ nameTags.map ([·]) then
      Text.without '/' (found.value noteText)
    else found.value noteText

end Tree

/-- A path of tags as a text. -/
def pathText (path : List Tag) : String :=
  ":".intercalate (path.map Tag.text)

end Lineage.Leveled
