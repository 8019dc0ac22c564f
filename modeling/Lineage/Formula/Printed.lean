import Lineage.Formula.Grammar
import Lineage.Formula.Quoted

/-!
# Formulas as texts

How a formula is written: texts in double quotes, one space on either side of an
operator between two operands, and parentheses only where an operand would else
be read in another way. That is where an operator in it is looser than the one
that it is an operand of, and on the right of an operator also where it is of the
same level, since all levels associate to the left.
-/

namespace Lineage

namespace Formula

/-- The place of a level among all levels, the loosest first. -/
def Level.rank : Level → Nat
  | disjunction => 0
  | conjunction => 1
  | comparison => 2
  | sum => 3
  | concatenation => 4
  | product => 5

/-- The rank of what is tighter than all operators between two operands: an
operand with or without operators in front of it. -/
def operandRank : Nat := 6

/-- How the operators are written that are words as well as symbols: a word may be
in letters of either case, and a space separates the one for `not` from its
operand. -/
structure Spelling where
  disjunction : List Char
  conjunction : List Char
  negation : List Char
  isDisjunction : disjunction.map Char.toLower = "or".toList ∨ disjunction = "||".toList
  isConjunction : conjunction.map Char.toLower = "and".toList ∨ conjunction = "&&".toList
  isNegation : (∃ word, negation = word ++ [' '] ∧ word.map Char.toLower = "not".toList) ∨
    negation = "!".toList

/-- The spelling in words. -/
def Spelling.words : Spelling :=
  { disjunction := "or".toList
    conjunction := "and".toList
    negation := "not ".toList
    isDisjunction := by decide
    isConjunction := by decide
    isNegation := .inl ⟨"not".toList, rfl, by decide⟩ }

end Formula

/-- The level of an operator. -/
def BinaryOperator.level : BinaryOperator → Formula.Level
  | or => .disjunction
  | and => .conjunction
  | equals | notEquals | identical | notIdentical | less | lessOrEqual | greater
  | greaterOrEqual => .comparison
  | plus | minus => .sum
  | concat => .concatenation
  | times | divide | modulo => .product

namespace Formula

/-- The text of an operator between two operands. -/
def Spelling.binary (spelling : Spelling) : BinaryOperator → List Char
  | .or => spelling.disjunction
  | .and => spelling.conjunction
  | .equals => "==".toList
  | .notEquals => "!=".toList
  | .identical => "===".toList
  | .notIdentical => "!==".toList
  | .less => "<".toList
  | .lessOrEqual => "<=".toList
  | .greater => ">".toList
  | .greaterOrEqual => ">=".toList
  | .plus => "+".toList
  | .minus => "-".toList
  | .concat => "~".toList
  | .times => "*".toList
  | .divide => "/".toList
  | .modulo => "%".toList

/-- The text of an operator in front of its operand. -/
def Spelling.unary (spelling : Spelling) : UnaryOperator → List Char
  | .not => spelling.negation
  | .minus => "-".toList
  | .plus => "+".toList

/-- The rank of the operator that a formula as a whole is formed with. -/
def rank : Formula → Nat
  | binary op _ _ => op.level.rank
  | _ => operandRank

/-- The text of an operand, in parentheses where the formula is looser than
`least`. -/
def enclosed (least : Nat) (f : Formula) (text : List Char) : List Char :=
  if f.rank < least then '(' :: (text ++ [')']) else text

/-- The text of a value. -/
def printedLiteral : Value → List Char
  | .null => "null".toList
  | .bool true => "true".toList
  | .bool false => "false".toList
  | .number x => (Value.numberText x).toList
  | .text s => (doubleQuoted s).toList

mutual

/-- The text of a formula. -/
def printed (spelling : Spelling) : Formula → List Char
  | literal value => printedLiteral value
  | name n => n.toList
  | binary op left right =>
    enclosed op.level.rank left (printed spelling left) ++
      ' ' :: (spelling.binary op ++
        ' ' :: enclosed (op.level.rank + 1) right (printed spelling right))
  | unary op operand =>
    spelling.unary op ++ enclosed operandRank operand (printed spelling operand)
  | call function [] => function.toList ++ ['(', ')']
  | call function (arg :: rest) =>
    function.toList ++ '(' :: (printed spelling arg ++ printedArguments spelling rest)

/-- The text of the arguments behind the first one, with the parenthesis behind
them. -/
def printedArguments (spelling : Spelling) : List Formula → List Char
  | [] => [')']
  | arg :: rest => ',' :: ' ' :: (printed spelling arg ++ printedArguments spelling rest)

end

/-- The text of a formula. -/
def print (spelling : Spelling) (f : Formula) : String :=
  .ofList (printed spelling f)

end Formula

end Lineage
