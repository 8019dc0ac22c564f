import Lineage.Formula.Value

/-!
# Formulas and their errors

The formulas that conditions and assignments are written in, and everything
that can go wrong with them.
-/

namespace Lineage

/-- The operators between two operands. -/
inductive BinaryOperator where
  | or
  | and
  | equals
  | notEquals
  | identical
  | notIdentical
  | less
  | lessOrEqual
  | greater
  | greaterOrEqual
  | plus
  | minus
  | concat
  | times
  | divide
  | modulo
deriving DecidableEq, Repr

/-- The operators in front of one operand. -/
inductive UnaryOperator where
  | not
  | minus
  | plus
deriving DecidableEq, Repr

/-- A formula. -/
inductive Formula where
  | literal (value : Value)
  | name (name : String)
  | binary (op : BinaryOperator) (left right : Formula)
  | unary (op : UnaryOperator) (operand : Formula)
  | call (function : String) (args : List Formula)

/-- Why a text is no formula. -/
inductive SyntaxFault where
  /-- No reading applies where a formula should start. -/
  | unreadable
  /-- The exponent of a number has no digits. -/
  | noExponentDigits
  /-- A formula was read, and this text is left behind it. -/
  | leftover (rest : String)
deriving DecidableEq, Repr

/-- What a function can object to. -/
inductive CallFault where
  | unknown
  | oneArgument
  | twoOrThreeArguments
  | noFormat
  | incompleteSpecifier
  | tooFewArguments
  | unsupportedSpecifier (c : Char)
deriving DecidableEq, Repr

/-- What can go wrong with a formula. -/
inductive FormulaError where
  | undefinedVariable (name : String)
  | malformed (source : String) (fault : SyntaxFault)
  | bareName (name : String)
  | divisionByZero
  | moduloByZero
  | call (function : String) (fault : CallFault)
deriving DecidableEq, Repr

/-- The text of a syntax fault. -/
def SyntaxFault.message : SyntaxFault → String
  | unreadable => "Parsing Error"
  | noExponentDigits => "Parsing Failure"
  | leftover rest => "Parser did not consume all input. Remainder: '" ++ rest ++ "'"

/-- The text of a function's objection. -/
def CallFault.message : CallFault → String
  | unknown => "unknown function"
  | oneArgument => "expects 1 argument"
  | twoOrThreeArguments => "expects 2 or 3 arguments"
  | noFormat => "expects a format argument"
  | incompleteSpecifier => "incomplete format specifier"
  | tooFewArguments => "too few arguments"
  | unsupportedSpecifier c => "unsupported specifier '%" ++ String.singleton c ++ "'"

/-- The text of an error. -/
def FormulaError.message : FormulaError → String
  | undefinedVariable name => "Undefined variable $" ++ name ++ " in report"
  | malformed source fault => "Expression syntax error in '" ++ source ++ "': " ++ fault.message
  | bareName name => "Evaluation error: Variable \"" ++ name ++ "\" is not valid"
  | divisionByZero => "Evaluation error: Division by zero"
  | moduloByZero => "Evaluation error: Modulo by zero"
  | call function fault => "Function '" ++ function ++ "' error: " ++ fault.message

end Lineage
