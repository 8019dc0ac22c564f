import Lineage.Markup.Written
import Lineage.Template.Tree

/-!
# Written templates

The source that a tree of a template is written as: an element with its attributes
in their order and what is in it between two tags, and one without anything in it
also as a single self-closed tag. Which of the two it is may differ from element to
element, so that a tree has several sources (`Written`).

Not every tree can be told from its source. In a tree in normal form (`Node.Normal`)
names are names, an element has the tag that its name stands for and the attribute
that it cannot do without, and text is neither empty nor only layout, and does not
stand next to other text.
-/

namespace Lineage.Template

/-! ## Sources of a tree -/

/-- The content of the opening tag of an element. -/
def Head.text (head : Head) : List Char :=
  Markup.tagText head.name head.attributes.entries

mutual

/-- The sources of a node. -/
inductive Written : Node → List Char → Prop
  | text (s : String) : Written (.text s) (Markup.escaped s.toList)
  | selfClosed (head : Head) :
    Written (.element head []) ('<' :: (head.text ++ ['/', '>']))
  | element (head : Head) {children : List Node} {inner : List Char}
    (written : WrittenAll children inner) :
    Written (.element head children)
      ('<' :: (head.text ++ '>' :: (inner ++ '<' :: '/' :: (head.name.toList ++ ['>']))))

/-- The sources of nodes that follow each other. -/
inductive WrittenAll : List Node → List Char → Prop
  | nil : WrittenAll [] []
  | cons {node : Node} {rest : List Node} {source more : List Char} (first : Written node source)
    (others : WrittenAll rest more) : WrittenAll (node :: rest) (source ++ more)

end

/-! ## Normal form -/

/-- Whether a text is kept as a node of its own: it is not empty, and if there is a
line break in it, then also something that is no blank. -/
structure IsPlainText (s : String) : Prop where
  nonempty : s ≠ ""
  noLayout : '\n' ∈ s.toList → ∃ c ∈ s.toList, Chars.isBlank c = false

/-- Whether the head of an element can be written and is read back as it is. -/
structure Head.Normal (head : Head) : Prop where
  name : Markup.IsName head.name
  tag : head.tag = Tag.ofName head.name
  keys : ∀ entry ∈ head.attributes.entries, Markup.IsName entry.1
  distinct : (head.attributes.entries.map Prod.fst).Nodup
  required : ∀ key, head.tag.required? = some key → (head.attributes.nonEmpty? key).isSome

/-- Whether no text stands next to another one. -/
def apart : List Node → Bool
  | .text _ :: .text _ :: _ => false
  | _ :: rest => apart rest
  | [] => true

/-- Whether a node is in normal form. -/
inductive Node.Normal : Node → Prop
  | text {s : String} (plain : IsPlainText s) : Normal (text s)
  | element {head : Head} {children : List Node} (head_ : head.Normal)
    (children_ : ∀ child ∈ children, Normal child) (apart_ : apart children = true) :
    Normal (element head children)

/-! ## Locations aside -/

/-- The head without its location. -/
def Head.unplaced (head : Head) : Head :=
  { head with location := {} }

namespace Node

mutual

/-- The node without the locations of the elements in it. -/
def unplaced : Node → Node
  | text s => text s
  | element head children => element head.unplaced (unplacedAll children)

/-- The nodes without the locations of the elements in them. -/
def unplacedAll : List Node → List Node
  | [] => []
  | node :: rest => node.unplaced :: unplacedAll rest

end

end Node

end Lineage.Template
