import Lineage.Markup.Event
import Lineage.Template.Tree

/-!
# Compiling a template

The events of a template's source are put together to a tree. Text that comes
in several pieces is joined; text between elements that only lays out the
source, white space with a line break in it, is left out. Attributes that an
element cannot do without are checked here, so that a broken template is
reported with its location before anything is run.
-/

namespace Lineage.Template

/-- Why a source is no template. -/
inductive CompileError where
  | markup (fault : Markup.Fault)
  | missingAttribute (key element : String) (location : Location)
  | neverClosed (element : String) (location : Location)
  | unexpectedEnd (element : String) (location : Location)
deriving DecidableEq, Repr

/-- A fault of the template with its location. -/
def syntaxMessage (what : String) (location : Location) : String :=
  "Template syntax error: " ++ what ++ " at " ++ location.describe

/-- The text of an error. -/
def CompileError.message : CompileError → String
  | markup fault => "XML error: " ++ fault.message
  | missingAttribute key element location =>
    syntaxMessage ("Required attribute '" ++ key ++ "' missing or empty on element '" ++
      element ++ "'") location
  | neverClosed element location =>
    syntaxMessage ("Element '" ++ element ++ "' is never closed") location
  | unexpectedEnd element location =>
    syntaxMessage ("Unexpected closing tag '" ++ element ++ "'") location

/-- Whether a node is text that only lays out the source. -/
def isLayout : Node → Bool
  | .text s => s.toList.contains '\n' && Text.isAllBlank s
  | .element .. => false

/-- The nodes without those that only lay out the source. -/
def withoutLayout (nodes : List Node) : List Node :=
  nodes.filter fun node => !isLayout node

/-- A tree under construction: the nodes of the innermost open element, last
one first, and the heads of the open elements, innermost first, each with the
nodes in front of it in the element around it, last one first. -/
structure Builder where
  nodes : List Node := []
  opened : List (Head × List Node) := []

namespace Builder

/-- Adds a node. -/
def push (b : Builder) (node : Node) : Builder :=
  { b with nodes := node :: b.nodes }

/-- Adds text, which joins the text in front of it. -/
def pushText (b : Builder) (s : String) : Builder :=
  if s.isEmpty then b
  else
    match b.nodes with
    | .text before :: rest => { b with nodes := .text (before ++ s) :: rest }
    | nodes => { b with nodes := .text s :: nodes }

/-- The head of an element, once its required attribute is there. -/
def head (source : String) (offset : Nat) (name : String)
    (attributes : List (String × String)) : Except CompileError Head :=
  let tag := Tag.ofName name
  let location := Location.ofOffset source offset
  let head : Head := ⟨tag, name, .ofList attributes, location⟩
  match tag.required? with
  | none => .ok head
  | some key =>
    if (head.attributes.nonEmpty? key).isSome then .ok head
    else .error (.missingAttribute key name location)

/-- Takes in one event. -/
def take (source : String) (b : Builder) (placed : Markup.Placed) :
    Except CompileError Builder :=
  match placed.event with
  | .opening name attributes =>
    (head source placed.offset name attributes).map fun h =>
      { nodes := [], opened := (h, b.nodes) :: b.opened }
  | .selfClosed name attributes =>
    (head source placed.offset name attributes).map fun h => b.push (.element h [])
  | .closing name =>
    match b.opened with
    | [] => .error (.unexpectedEnd name (Location.ofOffset source placed.offset))
    | (h, before) :: opened =>
      .ok { nodes := .element h (withoutLayout b.nodes.reverse) :: before, opened }
  | .text s => .ok (b.pushText s)
  | .reference name => .ok (b.pushText (Markup.textReference name))
  | .literal s => .ok (b.pushText s)

/-- The finished tree; every element must have been closed. -/
def finish (b : Builder) : Except CompileError (List Node) :=
  match b.opened with
  | [] => .ok (withoutLayout b.nodes.reverse)
  | (h, _) :: _ => .error (.neverClosed h.name h.location)

end Builder

/-- Compiles the source of a template. Of several faults the first one in the
source is reported. -/
def compile (source : String) : Except CompileError (List Node) := do
  let reading := Markup.read source
  let builder ← reading.events.foldlM (Builder.take source) {}
  match reading.fault with
  | some (fault, _) => throw (.markup fault)
  | none => builder.finish

end Lineage.Template
