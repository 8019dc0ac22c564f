import Lineage.Record.Basic

/-!
# Access levels

Who reads a report decides how much of it may be seen: every level sees what
the levels below it see.
-/

namespace Lineage

/-- The levels of access, the lowest first. -/
inductive AccessLevel where
  | visitor
  | member
  | manager
  | admin
deriving DecidableEq, Repr

namespace AccessLevel

/-- The height of a level. -/
def rank : AccessLevel → Nat
  | visitor => 0
  | member => 1
  | manager => 2
  | admin => 3

/-- Whether data with a restriction may be seen: what is private from members
on, what is confidential from managers on. -/
def allows (level : AccessLevel) : Restriction → Bool
  | .confidential => manager.rank ≤ level.rank
  | .privacy => member.rank ≤ level.rank
  | .locked | .none => true

/-- The name of a level. -/
def name : AccessLevel → String
  | visitor => "visitor"
  | member => "member"
  | manager => "manager"
  | admin => "admin"

/-- The level with a name, in letters of either case. -/
def ofName? (name : String) : Option AccessLevel :=
  match Text.asciiLower name with
  | "visitor" | "public" => some visitor
  | "member" | "user" => some member
  | "manager" => some manager
  | "admin" => some admin
  | _ => none

/-- What is said about a name that is no level. -/
def unknownMessage (name : String) : String :=
  "Unknown access level: '" ++ Text.asciiLower name ++ "'"

end AccessLevel

end Lineage
