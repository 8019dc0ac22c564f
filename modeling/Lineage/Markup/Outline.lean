import Lineage.Markup.Event

/-!
# The outline of a text

What is read from a text, put together to elements: what stands between an opening tag
and the closing tag with its name is the content of an element. Where a text ends
before an element does, the element goes on to its end (`closed` is false then).

The events of a text can be put together if its closing tags match (`Matched`).
-/

namespace Lineage.Markup

/-! ## Tags -/

/-- The name in a tag. -/
def Event.name? : Event → Option String
  | .opening name _ | .selfClosed name _ | .closing name => some name
  | .text _ | .reference _ | .literal _ => none

/-- The name and the attributes of a tag that opens an element. -/
def Event.tag? : Event → Option (String × List (String × String))
  | .opening name attributes | .selfClosed name attributes => some (name, attributes)
  | .closing _ | .text _ | .reference _ | .literal _ => none

/-- The attributes in a tag that opens an element with a name. -/
def Event.attributesOf? (name : String) (e : Event) : Option (List (String × String)) :=
  e.tag?.bind fun tag => if tag.1 = name then some tag.2 else none

/-! ## Fragments -/

/-- A fragment of a text: text of one of three kinds, an element that is written as a
self-closed tag, or one that is written with separate tags. -/
inductive Fragment where
  | text (s : String)
  | reference (name : String)
  | literal (s : String)
  | selfClosed (name : String) (attributes : List (String × String))
  | element (name : String) (attributes : List (String × String)) (content : List Fragment)
    (closed : Bool)

namespace Fragment

mutual

/-- What is read from a fragment. -/
def events : Fragment → List Event
  | text s => [.text s]
  | reference name => [.reference name]
  | literal s => [.literal s]
  | selfClosed name attributes => [.selfClosed name attributes]
  | element name attributes content closed =>
    .opening name attributes :: (eventsIn content ++ if closed then [.closing name] else [])

/-- What is read from the fragments of a list. -/
def eventsIn : List Fragment → List Event
  | [] => []
  | fragment :: rest => events fragment ++ eventsIn rest

end

/-! ## Elements -/

/-- The attributes of an element. -/
def attributes : Fragment → List (String × String)
  | selfClosed _ attributes | element _ attributes _ _ => attributes
  | text _ | reference _ | literal _ => []

/-- What stands between the tags of an element. -/
def content : Fragment → List Fragment
  | element _ _ content _ => content
  | selfClosed .. | text _ | reference _ | literal _ => []

/-- Whether a fragment is an element that is written with separate tags. -/
def hasEndTag : Fragment → Bool
  | element _ _ _ closed => closed
  | selfClosed .. | text _ | reference _ | literal _ => false

mutual

/-- The elements with a name at or below a fragment, in document order. -/
def elements (name : String) : Fragment → List Fragment
  | selfClosed other attributes => if other = name then [selfClosed other attributes] else []
  | element other attributes content closed =>
    (if other = name then [element other attributes content closed] else []) ++
      elementsIn name content
  | text _ | reference _ | literal _ => []

/-- The elements with a name in a list of fragments, in document order. -/
def elementsIn (name : String) : List Fragment → List Fragment
  | [] => []
  | fragment :: rest => elements name fragment ++ elementsIn name rest

end

end Fragment

/-! ## Putting fragments together -/

/-- An outline under construction: the fragments of the innermost open element, last one
first, and the names and attributes of the open elements, innermost first, each with the
fragments in front of it in the element around it, last one first. -/
structure Outliner where
  fragments : List Fragment := []
  opened : List (String × List (String × String) × List Fragment) := []

namespace Outliner

/-- Adds a fragment. -/
def push (o : Outliner) (fragment : Fragment) : Outliner :=
  { o with fragments := fragment :: o.fragments }

/-- Takes in one event. -/
def take (o : Outliner) : Event → Outliner
  | .opening name attributes =>
    { fragments := [], opened := (name, attributes, o.fragments) :: o.opened }
  | .selfClosed name attributes => o.push (.selfClosed name attributes)
  | .closing _ =>
    match o.opened with
    | [] => o
    | (name, attributes, before) :: opened =>
      { fragments := .element name attributes o.fragments.reverse true :: before, opened }
  | .text s => o.push (.text s)
  | .reference name => o.push (.reference name)
  | .literal s => o.push (.literal s)

/-- Ends the elements that are open, innermost first. -/
def endAll (fragments : List Fragment) :
    List (String × List (String × String) × List Fragment) → List Fragment
  | [] => fragments.reverse
  | (name, attributes, before) :: opened =>
    endAll (.element name attributes fragments.reverse false :: before) opened

/-- The finished outline. -/
def finish (o : Outliner) : List Fragment :=
  endAll o.fragments o.opened

end Outliner

/-- The outline of a text. -/
def outline (source : String) : List Fragment :=
  (((read source).events.map Placed.event).foldl Outliner.take {}).finish

/-! ## Matching tags -/

/-- The names that are open behind an event, if it can be read where some names are
open. -/
def Event.namesBehind? (names : List String) : Event → Option (List String)
  | .opening name _ => some (name :: names)
  | .closing name =>
    match names with
    | [] => none
    | first :: rest => if first = name then some rest else none
  | .selfClosed .. | .text _ | .reference _ | .literal _ => some names

/-- Whether each closing tag in a sequence of events has the name of the innermost
element that is open, some being open at the start. -/
def Matched : List String → List Event → Prop
  | _, [] => True
  | names, e :: rest => ∃ behind, e.namesBehind? names = some behind ∧ Matched behind rest

end Lineage.Markup
