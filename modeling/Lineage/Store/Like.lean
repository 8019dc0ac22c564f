import Lineage.Pattern.Reading

/-!
# Patterns over the text of a record

In a pattern a percent sign stands for any text, an underscore for any one
character, and a backslash makes the next character stand for itself. It is
turned into a regular expression without regard to case that must cover the
whole text, line breaks included. Where the expression is refused as too large,
the pattern matches nothing.
-/

namespace Lineage.Like

/-- The notation of what a pattern stands for, sign by sign. A backslash at its
end stands for nothing. -/
def body : List Char → List Char
  | [] => []
  | '%' :: rest => '.' :: '*' :: body rest
  | '_' :: rest => '.' :: body rest
  | '\\' :: c :: rest => Pattern.literal [c] ++ body rest
  | ['\\'] => []
  | c :: rest => Pattern.literal [c] ++ body rest

/-- The notation of a pattern that covers a whole text. -/
def expression (pattern : List Char) : List Char :=
  "(?is)^".toList ++ (body pattern ++ ['$'])

/-- The regular expression that a pattern is turned into. -/
def pattern? (pattern : String) : Option Pattern :=
  Pattern.ofChars? (expression pattern.toList)

end Lineage.Like

namespace Lineage

/-- Whether the text is covered by the pattern. -/
def likeMatches (pattern text : String) : Bool :=
  match Like.pattern? pattern with
  | some p => p.occursIn text.toList
  | none => false

end Lineage
