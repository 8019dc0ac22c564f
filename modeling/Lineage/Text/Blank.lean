/-!
# Blanks: trimming and words

The characters that count as white space in a text, the removal of such
characters from its ends, and its division into words. Everything is defined
on lists of characters (`Chars`) and lifted to strings (`Text`).
-/

namespace Lineage.Chars

/-- White space: the twenty-five characters with the property
`White_Space`. -/
def isBlank (c : Char) : Bool :=
  let n := c.toNat
  (9 ≤ n && n ≤ 13) || n == 0x20 || n == 0x85 || n == 0xA0 || n == 0x1680 ||
    (0x2000 ≤ n && n ≤ 0x200A) || n == 0x2028 || n == 0x2029 || n == 0x202F ||
    n == 0x205F || n == 0x3000

/-- Removes the longest end whose characters all satisfy `p`. -/
def dropEndWhile (p : Char → Bool) (cs : List Char) : List Char :=
  (cs.reverse.dropWhile p).reverse

/-- Removes at both ends the characters that satisfy `p`. -/
def stripWhile (p : Char → Bool) (cs : List Char) : List Char :=
  dropEndWhile p (cs.dropWhile p)

/-- Removes the blanks at the start. -/
def trimStart (cs : List Char) : List Char :=
  cs.dropWhile isBlank

/-- Removes the blanks at the end. -/
def trimEnd (cs : List Char) : List Char :=
  dropEndWhile isBlank cs

/-- Removes the blanks at both ends. -/
def trim (cs : List Char) : List Char :=
  stripWhile isBlank cs

/-- Puts a character in front of the first piece. -/
def consHead (c : Char) : List (List Char) → List (List Char)
  | [] => [[c]]
  | piece :: rest => (c :: piece) :: rest

/-- The pieces between the characters that satisfy `p`: always one more
than there are such characters. -/
def splitWhere (p : Char → Bool) : List Char → List (List Char)
  | [] => [[]]
  | c :: rest => if p c then [] :: splitWhere p rest else consHead c (splitWhere p rest)

/-- The words of a text: its longest runs without blanks. -/
def words (cs : List Char) : List (List Char) :=
  (splitWhere isBlank cs).filter fun word => !word.isEmpty

end Lineage.Chars

namespace Lineage.Text

/-- Removes the blanks at both ends. -/
def trim (s : String) : String :=
  .ofList (Chars.trim s.toList)

/-- Removes the blanks at the start. -/
def trimStart (s : String) : String :=
  .ofList (Chars.trimStart s.toList)

/-- The words of a text: its longest runs without blanks. -/
def words (s : String) : List String :=
  (Chars.words s.toList).map String.ofList

/-- A text with no character other than blanks. -/
def isAllBlank (s : String) : Bool :=
  s.toList.all Chars.isBlank

end Lineage.Text
