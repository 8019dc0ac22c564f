/-!
# Variables

The variables of a report: names with texts, in one flat scope. A name has at
most one value, the one stored last.
-/

namespace Lineage

/-- Variables with their values, in the order in which they were first
stored. -/
structure Scope where
  entries : List (String × String) := []
deriving DecidableEq, Repr

namespace Scope

/-- The value of a variable. -/
def get? (scope : Scope) (name : String) : Option String :=
  scope.entries.lookup name

/-- Whether a variable exists. -/
def contains (scope : Scope) (name : String) : Bool :=
  (scope.get? name).isSome

/-- Whether a variable exists and has a value other than the empty text. -/
def isSet (scope : Scope) (name : String) : Bool :=
  (scope.get? name).any fun value => !value.isEmpty

/-- Stores a value in a list of entries. -/
def put (name value : String) : List (String × String) → List (String × String)
  | [] => [(name, value)]
  | (n, v) :: rest => if n = name then (name, value) :: rest else (n, v) :: put name value rest

/-- Stores a value under a name. -/
def set (scope : Scope) (name value : String) : Scope :=
  ⟨put name value scope.entries⟩

/-- Stores several values, one after the other. -/
def extend (scope : Scope) (entries : List (String × String)) : Scope :=
  entries.foldl (fun scope (name, value) => scope.set name value) scope

/-- The number of variables. -/
def size (scope : Scope) : Nat :=
  scope.entries.length

/-- Whether there are no variables. -/
def isEmpty (scope : Scope) : Bool :=
  scope.entries.isEmpty

/-- The scope with the given entries; of two with one name the later counts. -/
def ofList (entries : List (String × String)) : Scope :=
  ({} : Scope).extend entries

theorem put_self (name value : String) (entries : List (String × String)) :
    (put name value entries).lookup name = some value := by
  induction entries with
  | nil => simp [put]
  | cons entry rest ih =>
    obtain ⟨n, v⟩ := entry
    by_cases h : n = name
    · simp [put, h]
    · have hne : (name == n) = false := by simpa using fun e => h e.symm
      simp [put, h, List.lookup_cons, hne, ih]

/-- What was stored is found. -/
@[simp] theorem get?_set_self (scope : Scope) (name value : String) :
    (scope.set name value).get? name = some value :=
  put_self name value scope.entries

end Scope

end Lineage
