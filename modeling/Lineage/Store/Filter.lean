import Lineage.Store.Basic
import Lineage.Store.Like
import Lineage.Text.Property

/-!
# Filters that a store answers

Three kinds of filters on the records of a list are answered by the store
itself: a bound on the date of a fact, words in a name, and a pattern over the
text.
-/

namespace Lineage

/-- On which side of a date a fact must lie. -/
inductive DateBound where
  | notAfter
  | notBefore
deriving DecidableEq, Repr

/-- A filter on records. -/
inductive ListFilter where
  | factDate (fact : String) (bound : DateBound) (date : Date)
  | nameContains (words : List String)
  | like (pattern : String)
deriving DecidableEq, Repr

/-- The collections that a list can go through. -/
inductive ListKind where
  | individual
  | family
  | pending
deriving DecidableEq, Repr

/-- The collection with a name. -/
def ListKind.ofName? : String → Option ListKind
  | "individual" => some individual
  | "family" => some family
  | "pending" => some pending
  | _ => none

/-- Text without line feeds. -/
def isOneLine (cs : List Char) : Bool :=
  !cs.contains '\n'

namespace ListFilter

/-- Reads a bound on the date of a fact: `TAG:DATE GTE date` or
`TAG:DATE LTE date`. -/
def parseDate? (cs : List Char) : Option ListFilter := do
  let tag := cs.takeWhile Chars.isWord
  let rest ← Chars.after? ":DATE ".toList (cs.drop tag.length)
  let (bound, date) ←
    match Chars.after? "LTE ".toList rest with
    | some date => some (.notAfter, date)
    | none => (Chars.after? "GTE ".toList rest).map (.notBefore, ·)
  if tag.isEmpty || date.isEmpty || !isOneLine date then none
  else some (factDate (.ofList tag) bound (Date.parse (.ofList date)))

/-- Reads a filter by words of a name: `NAME CONTAINS words`. -/
def parseName? (cs : List Char) : Option ListFilter := do
  let rest ← Chars.after? "NAME CONTAINS ".toList cs
  if isOneLine rest then
    let words := (Chars.split ' ' rest).filter fun word => !word.isEmpty
    some (nameContains (words.map fun word => .ofList (Chars.lower word)))
  else none

/-- Reads a filter by a pattern: `LIKE /pattern/`. The letters `\n` in it
stand for a line break. -/
def parseLike? (cs : List Char) : Option ListFilter := do
  let rest ← Chars.after? "LIKE /".toList cs
  let pattern ← Chars.before? ['/'] rest
  if pattern.isEmpty || !isOneLine pattern then none
  else some (like (.ofList (Chars.replace ['\\', 'n'] ['\n'] pattern)))

/-- Reads a filter that the store can answer. -/
def parse? (value : String) : Option ListFilter :=
  let cs := value.toList
  match parseDate? cs with
  | some filter => some filter
  | none =>
    match parseName? cs with
    | some filter => some filter
    | none => parseLike? cs

/-- Whether a date lies on the side of a bound. -/
def withinBound (bound : DateBound) (limit date : Date) : Bool :=
  match bound with
  | .notAfter => date.lastDay ≤ limit.lastDay
  | .notBefore => date.firstDay ≥ limit.firstDay

/-- Whether one of a person's names contains every word, without regard to
case. -/
def nameHasWords (words : List String) (person : Record) : Bool :=
  person.names.any fun name =>
    let name := Chars.lower (Text.exchange '/' ' ' name).toList
    words.all fun word => (Chars.afterFirst? word.toList name).isSome

/-- Whether a filter lets a record pass. A family has the names of its
spouses. -/
def accepts (store : Store) (filter : ListFilter) (record : Record) : Bool :=
  match filter with
  | factDate tag bound limit =>
    record.facts.any fun fact =>
      fact.tag == tag && fact.date.isValid && withinBound bound limit fact.date
  | nameContains [] => true
  | nameContains words =>
    let people :=
      if record.kind = .family then
        store.linked record "HUSB" ++ store.linked record "WIFE"
      else [record]
    people.any (nameHasWords words)
  | like pattern => likeMatches pattern record.text

end ListFilter

namespace Store

/-- The records of a collection, before any filter. -/
def collection (store : Store) : ListKind → List Record
  | .individual => store.ofKind .individual
  | .family => store.ofKind .family
  | .pending => store.pending.filterMap PendingChange.record?

/-- The records of a collection that pass all filters. -/
def list (store : Store) (kind : ListKind) (filters : List ListFilter) : List Record :=
  (store.collection kind).filter fun record => filters.all (·.accepts store record)

end Store

end Lineage
