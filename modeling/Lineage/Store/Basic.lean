import Lineage.Record.Fact
import Lineage.Record.Split
import Lineage.Store.Access

/-!
# The store of records

The records of a family tree in the order in which they were added, each
cross-reference once, together with the changes that still wait to be accepted
and the level of access that the store is read with. What a reader may not see
is left out of the privatized text of a record.
-/

namespace Lineage

/-- A change to a record that waits to be accepted. No new text means that the
record is to be deleted, no old text that it is to be added. -/
structure PendingChange where
  xref : String
  oldText : String
  newText : String
deriving DecidableEq, Repr

/-- The record that a change is about: as it will be, or as it was when it is
to be deleted. -/
def PendingChange.record? (change : PendingChange) : Option Record :=
  Record.parse? (if change.newText.isEmpty then change.oldText else change.newText)

/-- A media file with its size in pixels, when that is known. -/
structure MediaFile where
  xref : String
  path : String
  size : Option (Float32 × Float32)

/-- A store of records. -/
structure Store where
  records : List Record := []
  pending : List PendingChange := []
  mediaSizes : List (String × Float32 × Float32) := []
  access : AccessLevel := .visitor

namespace Store

/-! ## Filling -/

/-- Puts a record into a list, in the place of one with the same
cross-reference. -/
def put (record : Record) : List Record → List Record
  | [] => [record]
  | r :: rest => if r.xref = record.xref then record :: rest else r :: put record rest

/-- Adds or replaces a record. -/
def add (store : Store) (record : Record) : Store :=
  { store with records := put record store.records }

/-- The store with the given records, added one after the other. -/
def ofRecords (records : List Record) : Store :=
  records.foldl add {}

/-- The store with the records of a file. -/
def ofFile (text : String) : Except FileError Store :=
  (Record.splitFile text).map ofRecords

/-- Adds a change that waits to be accepted. -/
def addPending (store : Store) (change : PendingChange) : Store :=
  { store with pending := store.pending ++ [change] }

/-- Sets the size of a media file. -/
def setMediaSize (store : Store) (xref : String) (size : Float32 × Float32) : Store :=
  { store with mediaSizes := (xref, size) :: store.mediaSizes }

/-! ## Looking up -/

/-- The record with a cross-reference. -/
def record? (store : Store) (xref : String) : Option Record :=
  store.records.find? (·.xref == xref)

/-- The records of a kind, in the order of the store. -/
def ofKind (store : Store) (kind : RecordKind) : List Record :=
  store.records.filter (·.kind == kind)

/-- The text of a note record with its continuation lines. -/
def noteText? (store : Store) (xref : String) : Option String := do
  let note ← store.record? xref
  if note.kind = .note then
    let first := (Text.lines note.text).headD ""
    let value := Text.trim ((Text.splitUpTo ' ' 4 first)[3]?.getD "")
    some (value ++ Leveled.continuation 1 note.text)
  else none

/-- The first file of a media record. -/
def mediaFile? (store : Store) (xref : String) : Option MediaFile := do
  let media ← store.record? xref
  let path := Leveled.value "FILE" 1 media.text fun _ => none
  if path.isEmpty then none else some ⟨xref, path, store.mediaSizes.lookup xref⟩

/-! ## What may be seen -/

/-- Whether a record may be seen. -/
def canShow (store : Store) (record : Record) : Bool :=
  store.access.allows record.restriction

/-- Whether the name of a record may be seen. -/
def canShowName (store : Store) (record : Record) : Bool :=
  store.canShow record

/-- Whether a fact may be seen. -/
def canShowFact (store : Store) (fact : Fact) : Bool :=
  store.access.allows fact.restriction

/-- The facts of a record that may be seen, in order. -/
def visibleFacts (store : Store) (record : Record) : List Fact :=
  record.facts.filter store.canShowFact

/-- The text of a record as far as it may be seen: only the header when the
record is hidden, else the header and the facts that may be seen. -/
def privatize (store : Store) (record : Record) : String :=
  let header := (Text.lines record.text).headD ""
  if store.canShow record then
    Text.unlines (header :: (store.visibleFacts record).map Fact.text)
  else header

/-- The facts that a waiting change removes and adds, those removed first; the
note of the last change does not count. -/
def pendingFacts (store : Store) (record : Record) : List Fact :=
  match store.pending.find? (·.xref == record.xref) with
  | none => []
  | some change =>
    let factsOf (text : String) : List Fact :=
      match Record.parse? text with
      | some r => r.facts
      | none => []
    let old := factsOf change.oldText
    let new := factsOf change.newText
    (old.filter (!new.contains ·) ++ new.filter (!old.contains ·)).filter (·.tag != "CHAN")

/-! ## Families -/

/-- The records that the links of a record with a tag lead to. Links that lead
nowhere are passed over. -/
def linked (store : Store) (record : Record) (tag : String) : List Record :=
  (record.links tag).filterMap store.record?

/-- The families that a person is a child of. -/
def childFamilies (store : Store) (person : Record) : List Record :=
  store.linked person "FAMC"

/-- The families that a person is a spouse of. -/
def spouseFamilies (store : Store) (person : Record) : List Record :=
  store.linked person "FAMS"

/-- The husband of a family. -/
def husband? (store : Store) (family : Record) : Option Record :=
  (store.linked family "HUSB").head?

/-- The wife of a family. -/
def wife? (store : Store) (family : Record) : Option Record :=
  (store.linked family "WIFE").head?

/-- The husband and the wife of a family. -/
def spouses (store : Store) (family : Record) : List Record :=
  (store.husband? family).toList ++ (store.wife? family).toList

/-- The children of a family. -/
def children (store : Store) (family : Record) : List Record :=
  store.linked family "CHIL"

end Store

end Lineage
