import Lineage.Date.Display
import Lineage.Formula.Localizer
import Lineage.Markup.Event
import Lineage.Template.Compile

/-!
# The setup of a report

What has to be known about a report before it is run: its title, its
description and the inputs that it asks for. It is read from the source of the
template in one pass, which ignores everything else.
-/

namespace Lineage.Template

/-- An input that a report asks for; `label` is the text that names it to the
reader. -/
structure Input where
  name : String
  type : String
  lookup : String
  options : String
  default : String
  label : String
deriving DecidableEq, Repr

/-- The setup of a report. -/
structure Setup where
  title : String := ""
  description : String := ""
  inputs : List Input := []
deriving DecidableEq, Repr

/-- Why a source has no setup: markup that cannot be read, with its location,
or a default over which the program breaks down. -/
inductive SetupError where
  | markup (fault : Markup.Fault) (location : Location)
  | brokenDown
deriving DecidableEq, Repr

/-- The text of an error. -/
def SetupError.message : SetupError → String
  | markup fault location => syntaxMessage fault.message location
  | brokenDown => "days out of bounds"

namespace Setup

/-! ## Defaults -/

/-- The number of days that a default is away from today: none for `NOW`, and
as many as are written behind it with a sign. -/
def dayOffset? (default : String) : Option Int :=
  match Text.after? "NOW" default with
  | none => none
  | some "" => some 0
  | some offset =>
    match offset.toList with
    | c :: _ => if c = '+' ∨ c = '-' then Decimal.integer? 64 offset.toList else none
    | [] => none

/-- Whether a number of days is a span of time. Spans are counted in
milliseconds, and their number has 63 bits and a sign. -/
def isSpan (days : Int) : Bool :=
  days.natAbs * 86400000 < 9223372036854775808

/-- The default of an input, or nothing when the program breaks down over it,
because it is away from today by days that are no span of time. A day relative
to today is written out, provided that the calendar has such a day; anything
else stays. Days are those of the common era. -/
def resolveDefault? (today : Int) (default : String) : Option String :=
  match dayOffset? default with
  | none => some default
  | some days =>
    if isSpan days then
      match Calendar.ofCommonEraDay? (today + days) with
      | some (year, month, day) => some (Text.upper (Date.written year month day))
      | none => some default
    else none

/-! ## Reading -/

/-- A setup that is being read: what is known so far, the text since the last
element that starts a text of its own, and the input that is open. -/
structure Reader where
  setup : Setup := {}
  text : String := ""
  input : Option Input := none

/-- The value of an attribute, empty when there is none. -/
def valueOf (name : String) (attributes : List (String × String)) : String :=
  (attributes.lookup name).getD ""

/-- The input that an element opens, still without its label. The reading does
not go on behind a default that cannot be resolved. -/
def inputOf (today : Int) (attributes : List (String × String)) : Input :=
  { name := valueOf "name" attributes
    type := valueOf "type" attributes
    lookup := valueOf "lookup" attributes
    options := valueOf "options" attributes
    default := (resolveDefault? today (valueOf "default" attributes)).getD ""
    label := "" }

/-- The text of a message, which is looked up when it is a call for localized
text. -/
def messageText (localizer : Localizer) (message : String) : String :=
  match LocalizedCall.parse? message with
  | some call => localizer.answer call
  | none => message

namespace Reader

/-- Adds to the text. -/
def addText (r : Reader) (s : String) : Reader :=
  { r with text := r.text ++ s }

/-- Takes in the start of an element. -/
def open_ (localizer : Localizer) (today : Int) (name : String)
    (attributes : List (String × String)) (r : Reader) : Reader :=
  match name with
  | "Title" | "Description" => { r with text := "" }
  | "Var" => r.addText (messageText localizer ((attributes.lookup "var").getD ""))
  | "Input" => { r with text := "", input := some (inputOf today attributes) }
  | _ => r

/-- Takes in the end of an element. -/
def close (name : String) (r : Reader) : Reader :=
  let text := Text.trim r.text
  match name with
  | "Title" => { r with setup.title := text }
  | "Description" => { r with setup.description := text }
  | "Input" =>
    match r.input with
    | none => r
    | some input =>
      { r with setup.inputs := r.setup.inputs ++ [{ input with label := text }], input := none }
  | _ => r

/-- Takes in an event. -/
def take (localizer : Localizer) (today : Int) (r : Reader) : Markup.Event → Reader
  | .opening name attributes | .selfClosed name attributes =>
    r.open_ localizer today name attributes
  | .closing name => r.close name
  | .text s => r.addText s
  | .reference name => r.addText (Markup.textReference name)
  | .literal s => r.addText s

end Reader

/-- Whether the program breaks down over an event: over the start of an input
whose default cannot be resolved. -/
def breaksDown (today : Int) : Markup.Event → Bool
  | .opening name attributes | .selfClosed name attributes =>
    name == "Input" && (resolveDefault? today (valueOf "default" attributes)).isNone
  | .closing _ | .text _ | .reference _ | .literal _ => false

/-- Reads the setup of a template. It breaks down before a fault behind the
event is found. -/
def read (localizer : Localizer) (today : Int) (source : String) : Except SetupError Setup :=
  let reading := Markup.read source
  let events := reading.events.map Markup.Placed.event
  if events.any (breaksDown today) then .error .brokenDown
  else
    match reading.fault with
    | some (fault, offset) => .error (.markup fault (Location.ofOffset source offset))
    | none => .ok (events.foldl (Reader.take localizer today) {}).setup

end Setup

end Lineage.Template
