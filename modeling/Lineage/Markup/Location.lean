/-!
# Locations in a text

A place in a text is known by its offset in bytes of UTF-8, and shown as a
line and a column. Both are counted from 1, columns in bytes.
-/

namespace Lineage

/-- A line and a column. -/
structure Location where
  line : Nat := 0
  column : Nat := 0
deriving DecidableEq, Repr

namespace Location

/-- The text of a location. -/
def describe (loc : Location) : String :=
  "line " ++ toString loc.line ++ ", column " ++ toString loc.column

/-- The number of bytes that characters take up. -/
def byteLength : List Char → Nat
  | [] => 0
  | c :: rest => c.utf8Size + byteLength rest

/-- The longest start of a text of at most `n` bytes. -/
def takeBytes (n : Nat) : List Char → List Char
  | [] => []
  | c :: rest => if c.utf8Size ≤ n then c :: takeBytes (n - c.utf8Size) rest else []

/-- The location behind a text. -/
def behind (cs : List Char) : Location :=
  ⟨cs.count '\n' + 1, byteLength (cs.reverse.takeWhile (· != '\n')) + 1⟩

/-- The location of an offset in a text. -/
def ofOffset (source : String) (offset : Nat) : Location :=
  behind (takeBytes offset source.toList)

end Location

end Lineage
