import Lineage.Formula.Substitution
import Lineage.Leveled.Value
import Lineage.Pattern.Reading
import Lineage.Store.Basic

/-!
# Conditions on the records of a list

A condition reads `TAG[:TAG…] OPERATOR VALUE`. `CONTAINS` looks for the value,
as a pattern and without regard to case, in the lines under the path of tags;
`GTE` and `LTE` compare the value at the path, as dates when its last tag is
`DATE`; any other operator tests equality, where `''` stands for the empty
value. Conditions look at the privatized text of a record only.
-/

namespace Lineage

/-- How the value at a path is compared. -/
inductive Comparison where
  | atLeast
  | atMost
  | equal
deriving DecidableEq, Repr

/-- A condition on a record. -/
inductive ListCondition where
  | contains (pattern : Pattern)
  | compare (path : String) (comparison : Comparison) (value : String)
deriving DecidableEq, Repr

namespace ListCondition

/-! ## The parts of a condition -/

/-- Reads what follows the longest non-empty beginning of characters that all
satisfy `p` for which it can be read, and gives the beginning with it. -/
def behindLongest? {α : Type} (p : Char → Bool) (read? : List Char → Option α) :
    List Char → Option (List Char × α)
  | [] => none
  | c :: rest =>
    if p c then
      match behindLongest? p read? rest with
      | some (taken, a) => some (c :: taken, a)
      | none => (read? rest).map fun a => ([c], a)
    else none

/-- Whether a character may stand in a path of tags. -/
def isPathChar (c : Char) : Bool :=
  ('A' ≤ c && c ≤ 'Z') || c == ':'

/-- The three parts of a condition, as written. -/
structure Parts where
  path : List Char
  operator : List Char
  value : List Char
deriving DecidableEq, Repr

/-- The value of a condition: the rest of a line, which is not empty. -/
def value? (cs : List Char) : Option (List Char) :=
  let value := Chars.restOfLine cs
  if value.isEmpty then none else some value

/-- The value behind as many blanks as leave something for it. -/
def valueBehindBlanks? (cs : List Char) : Option (List Char) :=
  match behindLongest? Chars.isBlank value? cs with
  | some (_, value) => some value
  | none => value? cs

/-- The three parts of a condition at the start of a text. Each part takes as
much as it can, blanks between the parts included, as long as something is left
for the parts behind it. -/
def leadingParts? (cs : List Char) : Option Parts :=
  let operator? (cs : List Char) : Option (List Char × List Char) :=
    behindLongest? (!Chars.isBlank ·) valueBehindBlanks? (Chars.trimStart cs)
  (behindLongest? isPathChar operator? cs).map fun (path, operator, value) =>
    ⟨path, operator, value⟩

/-- The three parts of a condition at the first place where they can be
read. -/
def parts? (cs : List Char) : Option Parts :=
  Chars.firstSuffix? leadingParts? cs

/-! ## Looking for text -/

/-- The tag of an e-mail address may have an underscore in front. -/
def tagPattern (tag : String) : String :=
  if tag = "EMAIL" then "_?EMAIL" else tag

/-- The notation of the lines that lead to a path of tags, `level` being the
level of the first one. -/
def pathPattern (level : Nat) : List String → String
  | [] => ""
  | [tag] => toString level ++ " " ++ tagPattern tag
  | tag :: rest =>
    toString level ++ " " ++ tagPattern tag ++ "[^\n]*(\n[2-9].*)*\n" ++ pathPattern (level + 1) rest

/-- The notation of what may stand between a tag and the text that is looked
for. In a place it may stand behind any comma. -/
def gapPattern (tag : String) : String :=
  if tag = "PLAC" then "[^\n]*[, ]*" else "[^\n]*"

/-- The pattern that finds a text under a path of tags. A text that is no
pattern is looked for as it is. -/
def search? (path value : String) : Option Pattern :=
  let tags := Text.split ':' path
  let lead := "(?i)" ++ pathPattern 1 tags ++ gapPattern (tags.getLastD "")
  let pattern? (needle : List Char) := Pattern.ofChars? (lead.toList ++ needle)
  (pattern? value.toList).or (pattern? (Pattern.literal value.toList))

/-! ## Reading and testing -/

/-- Reads a condition. A value with a variable in it becomes the value of the
variable; without a value there is no condition. -/
def parse? (condition : String) (scope : Scope) : Option ListCondition := do
  let parts ← parts? condition.toList
  let path := String.ofList parts.path
  let written := String.ofList parts.value
  let value :=
    match Substitution.firstVariable? written with
    | some name => Text.trim ((scope.get? name).getD "")
    | none => written
  if value.isEmpty then none
  else
    match String.ofList parts.operator with
    | "CONTAINS" => (search? path value).map contains
    | "GTE" => some (compare path .atLeast value)
    | "LTE" => some (compare path .atMost value)
    | _ => some (compare path .equal value)

/-- Numeric order when both texts are numbers, and the order of the texts
otherwise. A number that is none compares equal to every number. -/
def looseCompare (a b : String) : Ordering :=
  match Decimal.float? (Chars.trim a.toList), Decimal.float? (Chars.trim b.toList) with
  | some x, some y => if x < y then .lt else if y < x then .gt else .eq
  | _, _ => compareOfLessAndEq a b

/-- The value at a path of the text of a record. Without an e-mail address,
one whose tag has an underscore counts. -/
def valueAt (store : Store) (path last text : String) : String :=
  let value := Leveled.value path 1 text store.noteText?
  if value.isEmpty ∧ last = "EMAIL" then
    Leveled.value (Text.replace "EMAIL" "_EMAIL" path) 1 text store.noteText?
  else value

/-- Whether the text of a record satisfies a condition. -/
def holds (store : Store) (text : String) : ListCondition → Bool
  | contains pattern => pattern.occursIn text.toList
  | compare path comparison value =>
    let last := (Text.split ':' path).getLastD path
    let expected := if value = "''" then "" else value
    let actual := valueAt store path last text
    let order :=
      if last = "DATE" then (Date.parse actual).compare (Date.parse expected)
      else looseCompare actual expected
    match comparison with
    | .atLeast => order != .lt
    | .atMost => order != .gt
    | .equal => actual == expected

end ListCondition

/-- The records whose privatized text satisfies all conditions. -/
def Store.satisfying (store : Store) (conditions : List ListCondition) (records : List Record) :
    List Record :=
  records.filter fun record => conditions.all (·.holds store (store.privatize record))

end Lineage
