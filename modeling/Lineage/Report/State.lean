import Lineage.Formula.Scope
import Lineage.Kin.Relatives
import Lineage.Output.Collected
import Lineage.Template.Tag

/-!
# The state of a report run

Everything that an element of a template reads or changes while a report is
written: the variables, the text that references are resolved against, the
document under construction, and the stacks that pair the start of an element
with its end. Blocks that are skipped are counted, one counter for each kind
of block, and while a counter is not zero only the elements that maintain it
do anything.
-/

namespace Lineage.Report

/-- The text that references are resolved against, with the fact that it
belongs to. `type` is the type of an event or attribute without a tag of its
own. -/
structure Active where
  text : String := ""
  fact : String := ""
  description : String := ""
  type : String := ""
  generation : Int := 0
deriving DecidableEq, Repr

/-- How many blocks of each kind are open inside the outermost one that is
skipped, itself included. -/
structure Suppression where
  conditions : Nat := 0
  switches : Nat := 0
  repeats : Nat := 0
  footnotes : Nat := 0
deriving DecidableEq, Repr

namespace Suppression

/-- Whether an element with the tag does anything. -/
def allows (s : Suppression) (tag : Template.Tag) : Bool :=
  (s.footnotes == 0 || tag == .footnote) && (s.conditions == 0 || tag == .ifTag) &&
    (s.switches == 0 || tag == .gedcom) && (s.repeats == 0 || tag.isRepeat)

/-- Whether nothing is skipped. -/
def isClear (s : Suppression) : Bool :=
  s == {}

end Suppression

/-- A fact that a block is repeated for. -/
structure FactItem where
  text : String
  fact : String
  description : String
  type : String
deriving DecidableEq, Repr

/-- What a block is repeated for. -/
inductive Items where
  | parts (texts : List String)
  | facts (facts : List FactItem)
  | records (records : List Record)
  | relatives (relatives : List Relative)
deriving DecidableEq, Repr

/-- An open footnote: one that is being filled, with the element that was
filled before it, or one that is skipped. -/
inductive FootnoteFrame where
  | visible (footnote : ElementId) (previous : Option ElementId)
  | hidden
deriving DecidableEq, Repr

/-- What a `Gedcom` block restores at its end. -/
structure SavedRecord where
  text : String
  fact : String
  description : String
deriving DecidableEq, Repr

/-- The state of a run. All stacks have their innermost entry first. -/
structure State where
  scope : Scope := {}
  active : Active := {}
  suppression : Suppression := {}
  prints : Bool := false
  printsBefore : List Bool := []
  savedRecords : List SavedRecord := []
  draft : Draft := {}
  place : Section := .header
  containers : List ElementId := []
  current : Option ElementId := none
  footnoteFrames : List FootnoteFrame := []
  footnotes : FootnoteTable := {}
  collected : List Items := []
  listTotal : Nat := 0
  listPrivate : Nat := 0
  lastText : String := ""
  replayDepth : Nat := 0
  output : Output := {}

namespace State

/-! ## Text -/

/-- Switches the printing of text on or off until `endPrinting`. -/
def beginPrinting (s : State) (value : Bool) : State :=
  { s with printsBefore := s.prints :: s.printsBefore, prints := value }

/-- Switches the printing of text back to what it was. -/
def endPrinting (s : State) : State :=
  match s.printsBefore with
  | [] => { s with prints := false }
  | before :: rest => { s with printsBefore := rest, prints := before }

/-- Whether the text of the template is printed. -/
def printsText (s : State) : Bool :=
  s.prints && s.suppression.isClear

/-- Adds text to the element that is being filled; without one the text is
lost. -/
def addText (s : State) (text : String) : State :=
  match s.current with
  | none => s
  | some id => { s with draft := s.draft.update id (Element.append (Content.chunk text)) }

/-! ## Elements -/

/-- Creates an element that has no place yet. -/
def create (s : State) (element : Element) : ElementId × State :=
  let (id, arena) := s.draft.arena.alloc element
  (id, { s with draft := { s.draft with arena } })

/-- Places an element in the innermost open text box, or else in the present
section. -/
def attach (s : State) (id : ElementId) : State :=
  match s.containers with
  | [] => { s with draft := s.draft.push s.place id }
  | box :: _ =>
    match s.draft.arena.attach? box id with
    | some arena => { s with draft := { s.draft with arena } }
    | none => s

/-- Creates an element and places it. -/
def addElement (s : State) (element : Element) : State :=
  let (id, s) := s.create element
  s.attach id

/-- The text of an element, empty when it has none. -/
def textOf (s : State) (id : ElementId) : String :=
  ((s.draft.arena.get? id).bind Element.text?).getD ""

end State

end Lineage.Report
