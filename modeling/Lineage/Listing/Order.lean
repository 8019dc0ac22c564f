import Lineage.Kin.Relatives
import Lineage.Record.Fact

/-!
# The order of a list

The keys that a list of records or of relatives can be sorted by. Sorting is
stable. Without a key, and with an unknown one, the order stays as it is.
-/

namespace Lineage

/-- A key that records are sorted by. -/
inductive SortKey where
  | name
  | lastChange
  | factDate (tag : String)
deriving DecidableEq, Repr

namespace SortKey

/-- The key with a name. -/
def ofName? : String → Option SortKey
  | "NAME" => some name
  | "CHAN" => some lastChange
  | "BIRT:DATE" => some (factDate "BIRT")
  | "DEAT:DATE" => some (factDate "DEAT")
  | "MARR:DATE" => some (factDate "MARR")
  | _ => none

/-- Compares first by one order, and where that decides nothing by another. -/
def lexicographic (first second : Ordering) : Ordering :=
  match first with
  | .eq => second
  | decided => decided

/-- The order of two records. Names are compared without regard to case, and
people of the same name by cross-reference. -/
def compare : SortKey → Record → Record → Ordering
  | name, a, b =>
    lexicographic (compareOfLessAndEq (Text.lower a.sortName) (Text.lower b.sortName))
      (compareOfLessAndEq a.xref b.xref)
  | lastChange, a, b =>
    let (dateA, timeA) := a.lastChange
    let (dateB, timeB) := b.lastChange
    lexicographic (dateA.compare dateB) (compareOfLessAndEq timeA timeB)
  | factDate tag, a, b => (a.factDate tag).compare (b.factDate tag)

/-- Whether a record comes before another. -/
def less (key : SortKey) (a b : Record) : Bool :=
  key.compare a b == .lt

end SortKey

/-- Sorts records by the key with a name. -/
def sortRecords (key : String) (records : List Record) : List Record :=
  match SortKey.ofName? key with
  | some key => Order.sortBy key.less records
  | none => records

/-- The number that stands for no generation, so that relatives without one
come last. -/
def lastGeneration : Int :=
  2147483647

/-- Whether a relative is of a lower generation than another. -/
def Relative.isBelow (a b : Relative) : Bool :=
  a.generation.getD lastGeneration < b.generation.getD lastGeneration

/-- Sorts relatives by the key with a name, or by their generation. -/
def sortRelatives (key : String) (relatives : List Relative) : List Relative :=
  if key = "generation" then Order.sortBy Relative.isBelow relatives
  else
    match SortKey.ofName? key with
    | some key => Order.sortBy (fun a b => key.less a.record b.record) relatives
    | none => relatives

end Lineage
