import Lineage.Date.Display
import Lineage.Date.Order
import Lineage.Leveled.Value
import Lineage.Order.Insertion
import Lineage.Record.Basic

/-!
# Facts

The facts of a record are its blocks of level 1: events, attributes, names and
links alike. A fact has a tag and its text, from which its value, its type,
its date and its restriction are read. Facts can be put into the order of
their dates.
-/

namespace Lineage

/-- A block of level 1 of a record. -/
structure Fact where
  tag : String
  text : String
deriving DecidableEq, Repr

namespace Fact

/-- What follows the tag on the first line. -/
def value (fact : Fact) : String :=
  match Text.lines fact.text with
  | [] => ""
  | line :: _ => Text.trim ((Text.splitUpTo ' ' 3 line)[2]?.getD "")

/-- The type of the fact, from its first line `2 TYPE …`. -/
def type? (fact : Fact) : Option String :=
  ((Text.lines fact.text).findSome? (Text.after? "2 TYPE ")).map Text.trim

/-- The date of the fact. -/
def date (fact : Fact) : Date :=
  Date.parse (Leveled.value "DATE" 2 fact.text fun _ => none)

/-- The restriction notice on the fact. -/
def restriction (fact : Fact) : Restriction :=
  Restriction.of 2 fact.text

end Fact

/-- Gathers the facts of a list of lines; `open?` holds the tag and the lines,
last line first, of the fact that is being read. -/
def Fact.gather (open? : Option (String × List String)) : List String → List Fact
  | [] => (close open?).toList
  | line :: rest =>
    if Leveled.level? line = some 1 then
      let tag := (Text.words line)[1]?.getD ""
      (close open?).toList ++ gather (some (tag, [line])) rest
    else gather (open?.map fun (tag, lines) => (tag, line :: lines)) rest
where
  /-- The fact made of the lines read so far. -/
  close (open? : Option (String × List String)) : Option Fact :=
    open?.map fun (tag, lines) => ⟨tag, Text.unlines lines.reverse⟩

namespace Record

/-- The facts of a record, in the order of its text. -/
def facts (record : Record) : List Fact :=
  Fact.gather none ((Text.lines record.text).drop 1)

/-- The first fact with the given tag. -/
def fact? (record : Record) (tag : String) : Option Fact :=
  let text := Leveled.block 1 ("1 " ++ tag) record.text 1
  if text.isEmpty then none else some ⟨tag, text⟩

/-- The date of the first fact with the given tag; the empty date when there
is none. -/
def factDate (record : Record) (tag : String) : Date :=
  match record.fact? tag with
  | some fact => fact.date
  | none => Date.parse ""

/-- The date and the time of the last change of a record. -/
def lastChange (record : Record) : Date × String :=
  let change := Leveled.block 1 "1 CHAN" record.text 1
  (Date.parse (Leveled.value "DATE" 2 change fun _ => none),
    Leveled.value "DATE:TIME" 2 change fun _ => none)

end Record

namespace Fact

/-- Puts new facts, in order, into the places of the dated ones. -/
def refill : List Fact → List Fact → List Fact
  | [], _ => []
  | fact :: rest, dated =>
    if fact.date.isValid then
      match dated with
      | [] => fact :: rest
      | next :: more => next :: refill rest more
    else fact :: refill rest dated

/-- Sorts the dated facts by their ranges of days. A fact without a valid date
keeps its place, and the dated facts share the other places among
themselves. -/
def sortByDate (facts : List Fact) : List Fact :=
  let dated := facts.filter fun fact => fact.date.isValid
  refill facts
    (Order.sortBy (fun later earlier => Order.lexLess later.date.range earlier.date.range) dated)

end Fact

end Lineage
