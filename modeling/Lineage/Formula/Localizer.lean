import Lineage.Formula.Localized

/-!
# The language of the reader

Messages are looked up in a table and stay as they are where it has nothing.
Numbers are grouped by thousands, and tags of facts have English labels, which
are looked up in turn.
-/

namespace Lineage

/-- A table of messages in the reader's language and the direction of writing. -/
structure Localizer where
  messages : List (String × String) := []
  rtl : Bool := false
deriving DecidableEq, Repr

namespace Localizer

/-- A message as the reader sees it: itself where the table has nothing. -/
def translate (loc : Localizer) (message : String) : String :=
  (loc.messages.lookup message).getD message

/-- A message in a context, which the table does not distinguish. -/
def translateInContext (loc : Localizer) (_context message : String) : String :=
  loc.translate message

/-- Digits with a comma before each group of three, counted from the end. -/
def grouped (digits : List Char) : List Char :=
  match digits with
  | [] => []
  | c :: rest => if rest.length % 3 = 0 ∧ !rest.isEmpty then c :: ',' :: grouped rest else c :: grouped rest

/-- A whole number with its thousands separated. -/
def number (_loc : Localizer) (n : Int) : String :=
  let digits := grouped (Nat.toDigits 10 n.natAbs)
  .ofList (if n < 0 then '-' :: digits else digits)

/-- The English label of a fact tag. -/
def englishLabel? : String → Option String
  | "BIRT" => some "Birth"
  | "CHR" => some "Christening"
  | "BAPM" => some "Baptism"
  | "DEAT" => some "Death"
  | "BURI" => some "Burial"
  | "CREM" => some "Cremation"
  | "MARR" => some "Marriage"
  | "DIV" => some "Divorce"
  | "ENGA" => some "Engagement"
  | "RESI" => some "Residence"
  | "OCCU" => some "Occupation"
  | "EDUC" => some "Education"
  | "EMIG" => some "Emigration"
  | "IMMI" => some "Immigration"
  | "CENS" => some "Census"
  | "GRAD" => some "Graduation"
  | "RELI" => some "Religion"
  | "NAME" => some "Name"
  | "SEX" => some "Gender"
  | "NOTE" => some "Note"
  | "SOUR" => some "Source"
  | "EMAIL" => some "Email"
  | "PLAC" => some "Place"
  | "DATE" => some "Date"
  | "EVEN" => some "Event"
  | "FACT" => some "Fact"
  | "CHAN" => some "Last change"
  | _ => none

/-- The label of a fact tag in the language of the reader; an unknown tag is
its own label. -/
def factLabel (loc : Localizer) (tag : String) : String :=
  match englishLabel? tag with
  | some label => loc.translate label
  | none => tag

/-- The text of a call for localized text. -/
def answer (loc : Localizer) : LocalizedCall → String
  | .number n => loc.number n
  | .translate message => loc.translate message
  | .translateInContext context message => loc.translateInContext context message

end Localizer

end Lineage
