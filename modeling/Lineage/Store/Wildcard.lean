import Lineage.Text.Case

/-!
# What patterns over text mean

A pattern is read from its start to its end, sign by sign, and each sign
accounts for a piece of the text: a percent sign for any piece, an underscore
for any character, a backslash for the character behind it, and any other sign
for itself. The whole text is produced when the pieces, one after the other,
make it up. Line breaks are characters like others.
-/

namespace Lineage

/-- Whether two characters are equal or differ in case alone. -/
def Chars.SameLetter (c d : Char) : Prop :=
  fold c = fold d

instance (c d : Char) : Decidable (Chars.SameLetter c d) :=
  inferInstanceAs (Decidable (_ = _))

namespace Like

/-- The signs of a pattern that do not stand for themselves. -/
def isSign (c : Char) : Bool :=
  c == '%' || c == '_' || c == '\\'

/-- Whether a text can be produced from a pattern. A backslash at the end of a
pattern produces nothing. -/
inductive Yields : List Char → List Char → Prop where
  | done : Yields [] []
  | anyText {rest text} (piece : List Char) :
      Yields rest text → Yields ('%' :: rest) (piece ++ text)
  | anyChar {rest text} (d : Char) : Yields rest text → Yields ('_' :: rest) (d :: text)
  | escaped {rest text} {c d : Char} :
      Chars.SameLetter c d → Yields rest text → Yields ('\\' :: c :: rest) (d :: text)
  | loneBackslash : Yields ['\\'] []
  | char {rest text} {c d : Char} :
      isSign c = false → Chars.SameLetter c d → Yields rest text → Yields (c :: rest) (d :: text)

end Like

end Lineage
