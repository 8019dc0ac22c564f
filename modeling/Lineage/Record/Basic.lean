import Lineage.Leveled.Block
import Lineage.Text.Case

/-!
# Records

A record of a family tree: its cross-reference, its kind and its text. The
kind is read from the header line `0 @X@ KIND`; names, links to other records
and the restriction notice are read from the lines of the text.
-/

namespace Lineage

/-- The kind of a record. -/
inductive RecordKind where
  | individual
  | family
  | source
  | repository
  | note
  | media
  | submitter
  | other (tag : String)
deriving DecidableEq, Repr

namespace RecordKind

/-- The kind that a header tag stands for. -/
def ofTag : String → RecordKind
  | "INDI" => individual
  | "FAM" => family
  | "SOUR" => source
  | "REPO" => repository
  | "NOTE" => note
  | "OBJE" => media
  | "SUBM" => submitter
  | tag => other tag

/-- The header tag of a kind. -/
def tag : RecordKind → String
  | individual => "INDI"
  | family => "FAM"
  | source => "SOUR"
  | repository => "REPO"
  | note => "NOTE"
  | media => "OBJE"
  | submitter => "SUBM"
  | other tag => tag

end RecordKind

/-- The restriction notice on a record or on one of its facts. -/
inductive Restriction where
  | none
  | locked
  | privacy
  | confidential
deriving DecidableEq, Repr

/-- The notice on the first restriction line of the given level. An unknown
notice restricts nothing. -/
def Restriction.of (level : Nat) (text : String) : Restriction :=
  match (Text.lines text).findSome? (Text.after? (toString level ++ " RESN ")) with
  | Option.none => none
  | some notice =>
    match Text.asciiLower (Text.trim notice) with
    | "confidential" => confidential
    | "privacy" => privacy
    | "locked" => locked
    | _ => none

/-- A record and its text. -/
structure Record where
  xref : String
  kind : RecordKind
  text : String
deriving DecidableEq, Repr

namespace Record

/-- Reads a record from its text. The first line must be a header with a
cross-reference and a third word, the kind. -/
def parse? (text : String) : Option Record := do
  let text := String.ofList (Chars.stripWhile (fun c => c == '\n' || c == '\r') text.toList)
  let xref ← Leveled.headerXref? text
  let first ← (Text.lines text).head?
  let kind ← (Text.words first)[2]?
  some ⟨xref, RecordKind.ofTag kind, text⟩

/-- The restriction notice on the whole record. -/
def restriction (record : Record) : Restriction :=
  Restriction.of 1 record.text

/-- The cross-references on the lines `1 TAG @X@`, in order. -/
def links (record : Record) (tag : String) : List String :=
  (Text.lines record.text).filterMap fun line => do
    let rest ← Text.after? ("1 " ++ tag ++ " @") line
    let xref := rest.toList.takeWhile (· != '@')
    if xref.isEmpty then none else some (.ofList xref)

/-- The name values, with the slashes around the surname. -/
def names (record : Record) : List String :=
  (Text.lines record.text).filterMap fun line => do
    let rest ← Text.after? "1 NAME" line
    let name := Text.trim rest
    if name.isEmpty then none else some name

/-- A name as it is displayed: no slashes, one space between words. -/
def displayName (name : String) : String :=
  " ".intercalate (Text.words (Text.exchange '/' ' ' name))

/-- The first name for display. -/
def fullName (record : Record) : String :=
  match record.names with
  | [] => ""
  | name :: _ => displayName name

/-- The second name for display, if there is one. -/
def alternateName? (record : Record) : Option String :=
  record.names[1]?.map displayName

/-- The upper-case `SURNAME,GIVEN` that records are ordered by. -/
def sortName (record : Record) : String :=
  match record.names with
  | [] => ""
  | name :: _ =>
    let parts := (Text.splitUpTo '/' 3 name).map Text.trim
    let surname := parts[1]?.getD ""
    let given := [parts[0]?.getD "", parts[2]?.getD ""].filter fun part => !part.isEmpty
    Text.upper (surname ++ "," ++ " ".intercalate given)

end Record

end Lineage
