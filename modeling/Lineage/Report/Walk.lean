import Lineage.Report.Citation
import Lineage.Report.Layout
import Lineage.Report.Picture
import Lineage.Report.Repetition
import Lineage.Report.Subject
import Lineage.Report.Value
import Lineage.Template.Tree

/-!
# Carrying out a template

A template is walked from the outside in: an element starts, its content is
walked, and the element ends. Start and end do something only as far as the
counters of skipped blocks allow it. The content of a repeated block is walked
once while the block is being skipped, and then once for each of its items
when the block ends.
-/

namespace Lineage.Report

open Template (Head Node)

/-- The text that stands for the number of the page. -/
def pageNumberMark : String := "#PAGENUM#"

/-- The text that stands for the number of pages. -/
def totalPagesMark : String := "\x7b\x7b:ptp:\x7d\x7d"

/-- What an element does at its start. -/
def startElement (env : Environment) (head : Head) (s : State) : Outcome :=
  let attrs := head.attributes.resolve s.scope
  let rtl := s.output.rtl
  match head.tag with
  | .doc => .ok (s.beginDocument env attrs)
  | .style => .ok (s.defineStyle attrs)
  | .header => .ok (s.enterSection .header)
  | .body => .ok (s.enterSection .body)
  | .footer => .ok (s.enterSection .footer)
  | .cell => .ok (s.beginText (.cell (cellOf rtl attrs)))
  | .text => .ok (s.beginText (.text (textRunOf attrs)))
  | .textBox => .ok (s.beginBox attrs)
  | .now => .ok (s.addText env.now)
  | .pageNum => .ok (s.addText pageNumberMark)
  | .totalPages => .ok (s.addText totalPagesMark)
  | .br => .ok s.breakLine
  | .line => .ok (s.addElement (.line (lineOf attrs)))
  | .image => .ok (s.addImage env attrs)
  | .highlightedImage => .ok (s.addHighlightedImage env attrs)
  | .newPage => .ok (s.addElement .newPage)
  | .footnoteTexts => .ok (s.addElement .footnoteTexts)
  | .gedcom => .ok (s.beginSwitch env attrs)
  | .ifTag => s.beginCondition env attrs head.location
  | .getPersonName => .ok (s.printName env attrs)
  | .gedcomValue => .ok (s.printValue env attrs)
  | .var => .ok (s.printVariable env attrs)
  | .setVar => s.assign env attrs head.location
  | .generation => .ok (s.printGeneration env)
  | .listTotal => .ok s.printTotal
  | .footnote => .ok (s.beginFootnote env attrs)
  | .repeatTag => .ok (s.beginParts env attrs)
  | .facts => .ok (s.beginFacts env attrs)
  | .list => s.beginList env attrs
  | .relatives => .ok (s.beginRelatives env attrs)
  | .title | .description | .other => .ok s

/-- What an element does at its end, `body` carrying out its content. -/
def endElement (env : Environment) (head : Head) (body : State → Outcome) (s : State) :
    Outcome :=
  match head.tag with
  | .doc => s.endDocument
  | .cell | .text => .ok s.endText
  | .textBox => .ok s.endBox
  | .gedcom => .ok s.endSwitch
  | .ifTag => .ok s.endCondition
  | .footnote => .ok s.endFootnote
  | .title => .ok { s with output.title := s.lastText }
  | .description => .ok { s with output.description := s.lastText }
  | .repeatTag | .facts | .list | .relatives => s.endRepeat env body
  | _ => .ok s

mutual

/-- Carries out a node. -/
def walk (env : Environment) : Node → State → Outcome
  | .text text, s => .ok (if s.printsText then s.addText text else s)
  | .element head children, s => do
    let s ← if s.suppression.allows head.tag then startElement env head s else .ok s
    let s ← walkAll env children s
    if s.suppression.allows head.tag then endElement env head (walkAll env children) s else .ok s

/-- Carries out the nodes of a list, one after the other. -/
def walkAll (env : Environment) : List Node → State → Outcome
  | [], s => .ok s
  | node :: rest, s => do
    let s ← walk env node s
    walkAll env rest s

end

/-- The state that a run starts from. -/
def State.start (scope : Scope) (output : Output) : State :=
  { scope, output }

/-- Writes the report of a template into an output. -/
def run (env : Environment) (template : List Node) (scope : Scope) (output : Output) : Outcome :=
  walkAll env template (.start scope output)

end Lineage.Report
