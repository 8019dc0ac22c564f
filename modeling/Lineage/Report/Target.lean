import Lineage.Formula.Scope
import Lineage.Leveled.Link
import Lineage.Leveled.Value

/-!
# Naming a record

How an attribute names the record that an element is about: by nothing at all
for the active one, by a variable, by a link of the active record, by its
cross-reference, or by a path of such steps.
-/

namespace Lineage.Report

/-- A step of a path: to the record whose cross-reference a variable holds, to
a linked record, or down to a part of the present one. -/
inductive Step where
  | heldBy (name : String)
  | linked (tag : String)
  | part (tag : String)
deriving DecidableEq, Repr

/-- What an attribute names. -/
inductive Target where
  | active
  | heldBy (name : String)
  | linked (tag : String)
  | literal (xref : String)
  | path (steps : List Step)
deriving DecidableEq, Repr

/-- Reads a step. -/
def Step.ofText (step : String) : Step :=
  match Text.after? "$" step with
  | some name => heldBy name
  | none =>
    match Text.after? "@" step with
    | some tag => linked tag
    | none => part step

namespace Target

/-- Reads the value of an attribute. -/
def ofText (value : String) : Target :=
  let value := Text.trim value
  if value.isEmpty then active
  else if value.toList.contains ':' then path ((Text.split ':' value).map Step.ofText)
  else
    match Step.ofText value with
    | .heldBy name => heldBy name
    | .linked tag => linked tag
    | .part xref => literal xref

/-- Reads an attribute that may be missing. -/
def ofAttribute (value : Option String) : Target :=
  ofText (value.getD "")

/-- The cross-reference that is named, if it is not empty. A path ends in a
text and names none. -/
def xref? (target : Target) (activeText : String) (scope : Scope) : Option String :=
  let xref :=
    match target with
    | active => Leveled.activeXref? activeText
    | heldBy name => scope.get? name
    | linked tag => Leveled.linkedXref? tag activeText
    | literal xref => some xref
    | path _ => none
  xref.filter fun x => !x.isEmpty

end Target

end Lineage.Report
