/-!
# Texts as literals

Two ways to write a text as a literal of a formula: in single quotes, where
only the single quote is escaped, and in double quotes, where both quotes and
the backslash are.
-/

namespace Lineage.Formula

/-- The text in single quotes, with a backslash before each of its own. -/
def singleQuoted (s : String) : String :=
  .ofList ('\'' :: (s.toList.flatMap fun c => if c = '\'' then ['\\', c] else [c]) ++ ['\''])

/-- Whether a character is escaped between double quotes. -/
def isEscaped (c : Char) : Bool :=
  c == '"' || c == '\'' || c == '\\'

/-- The text in double quotes, with a backslash before each quote and
backslash of its own. -/
def doubleQuoted (s : String) : String :=
  .ofList ('"' :: (s.toList.flatMap fun c => if isEscaped c then ['\\', c] else [c]) ++ ['"'])

end Lineage.Formula
