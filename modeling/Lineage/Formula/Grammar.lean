import Lineage.Formula.Basic
import Lineage.Text.Property

/-!
# The grammar of formulas

Formulas are read from left to right. The binary operators have six levels,
from `or` over `and`, the comparisons, `+` and `-`, and `~` to `*`, `/` and
`%`; all of them associate to the left. Where an operator has no operand
behind it, the formula ends in front of the operator. Space may stand around
every part.

A number whose exponent lacks its digits ends the reading of the whole text:
nothing else is tried in its place.
-/

namespace Lineage.Formula

/-- The outcome of reading something at the start of a text. -/
inductive Read (α : Type) where
  /-- A value was read, and `rest` follows it. -/
  | done (value : α) (rest : List Char)
  /-- What was looked for is not there. -/
  | absent
  /-- The text is broken, and no other reading may be tried. -/
  | broken

namespace Read

/-- Tries another reading where the first finds nothing. -/
def orElse {α : Type} (first : Read α) (second : Unit → Read α) : Read α :=
  match first with
  | absent => second ()
  | _ => first

/-- Reads on behind what was read. -/
def andThen {α β : Type} (r : Read α) (next : α → List Char → Read β) : Read β :=
  match r with
  | done value rest => next value rest
  | absent => absent
  | broken => broken

/-- A reading that may only be absent. -/
def ofOption {α : Type} : Option (α × List Char) → Read α
  | some (value, rest) => done value rest
  | none => absent

end Read

/-- Something that reads a formula at the start of a text. -/
abbrev Reader := List Char → Read Formula

/-! ## Space, words and symbols -/

/-- The characters that may stand between the parts of a formula. -/
def isSpace (c : Char) : Bool :=
  c == ' ' || c == '\t' || c == '\r' || c == '\n'

/-- Passes over space. -/
def skipSpace (cs : List Char) : List Char :=
  cs.dropWhile isSpace

/-- A character of a name behind its first one. -/
def isNameChar (c : Char) : Bool :=
  Chars.isAlphanumeric c || c == '_'

/-- A character that a name starts with. -/
def isNameStart (c : Char) : Bool :=
  Chars.isAlphabetic c || c == '_'

/-- Reads a given word in letters of either case, where no longer name starts
with it. -/
def keyword? (word : List Char) (cs : List Char) : Option (List Char) :=
  let found := cs.take word.length
  let rest := cs.drop word.length
  if found.map Char.toLower = word ∧ !(rest.head?.any isNameChar) then some rest else none

/-- Reads the first symbol of a list that the text starts with. -/
def symbol? {α : Type} (symbols : List (String × α)) (cs : List Char) :
    Option (α × List Char) :=
  symbols.findSome? fun (symbol, value) =>
    (Chars.after? symbol.toList cs).map fun rest => (value, rest)

/-- Reads a name. -/
def name? : List Char → Option (String × List Char)
  | [] => none
  | c :: rest =>
    if isNameStart c then
      some (.ofList (c :: rest.takeWhile isNameChar), rest.dropWhile isNameChar)
    else none

/-! ## Operators -/

/-- The levels of the binary operators, the loosest first. -/
inductive Level where
  | disjunction
  | conjunction
  | comparison
  | sum
  | concatenation
  | product
deriving DecidableEq, Repr

/-- All levels, the loosest first. -/
def levels : List Level :=
  [.disjunction, .conjunction, .comparison, .sum, .concatenation, .product]

/-- Reads an operator of a level. Where one symbol starts with another the
longer one comes first. -/
def Level.operator? (level : Level) (cs : List Char) : Option (BinaryOperator × List Char) :=
  match level with
  | disjunction =>
    ((keyword? "or".toList cs).or (Chars.after? "||".toList cs)).map fun rest => (.or, rest)
  | conjunction =>
    ((keyword? "and".toList cs).or (Chars.after? "&&".toList cs)).map fun rest => (.and, rest)
  | comparison =>
    symbol?
      [("===", .identical), ("!==", .notIdentical), ("==", .equals), ("!=", .notEquals),
        ("<=", .lessOrEqual), (">=", .greaterOrEqual), ("<", .less), (">", .greater)] cs
  | sum => symbol? [("+", .plus), ("-", .minus)] cs
  | concatenation => symbol? [("~", .concat)] cs
  | product => symbol? [("*", .times), ("/", .divide), ("%", .modulo)] cs

/-- Reads an operator in front of an operand. An exclamation mark in front of
an equals sign is none. -/
def unaryOperator? (cs : List Char) : Option (UnaryOperator × List Char) :=
  match keyword? "not".toList cs with
  | some rest => some (.not, rest)
  | none =>
    match cs with
    | '!' :: rest => if rest.head? = some '=' then none else some (.not, rest)
    | '-' :: rest => some (.minus, rest)
    | '+' :: rest => some (.plus, rest)
    | _ => none

/-- Reads further operators of a level with their operands and joins them to
the formula before them; `fuel` bounds their number. -/
def moreOperands (level : Level) (operand : Reader) : Nat → Formula → List Char → Read Formula
  | 0, left, cs => .done left cs
  | fuel + 1, left, cs =>
    match level.operator? (skipSpace cs) with
    | none => .done left cs
    | some (op, rest) =>
      match operand (skipSpace rest) with
      | .done right rest => moreOperands level operand fuel (.binary op left right) rest
      | .absent => .done left cs
      | .broken => .broken

/-- Reads operands joined by the operators of a level. -/
def joined (level : Level) (operand : Reader) : Reader := fun cs =>
  (operand cs).andThen fun left rest => moreOperands level operand rest.length left rest

/-- Reads a formula of all levels around the given operands, with the space
around it. -/
def formula (operand : Reader) : Reader := fun cs =>
  (levels.foldr joined operand (skipSpace cs)).andThen fun f rest => .done f (skipSpace rest)

/-! ## Operands -/

/-- The text up to the closing quote. A backslash stands for the character
behind it. -/
def quoted? (quote : Char) : List Char → Option (List Char × List Char)
  | [] => none
  | '\\' :: c :: rest => (quoted? quote rest).map fun (text, rest) => (c :: text, rest)
  | c :: rest =>
    if c = quote then some ([], rest)
    else (quoted? quote rest).map fun (text, rest) => (c :: text, rest)

/-- Reads a text in single or double quotes. -/
def textLiteral : Reader
  | '\'' :: rest => .ofOption ((quoted? '\'' rest).map fun (t, r) => (literal (.text (.ofList t)), r))
  | '"' :: rest => .ofOption ((quoted? '"' rest).map fun (t, r) => (literal (.text (.ofList t)), r))
  | _ => .absent

/-- Reads a number without sign. -/
def numberLiteral : Reader := fun cs =>
  match Decimal.Numeral.mantissa? cs with
  | none => .absent
  | some (whole, fraction, rest) =>
    let number (exponent : Int) : Formula :=
      literal (.number (Decimal.Numeral.toFloat ⟨whole, fraction, exponent⟩))
    match rest with
    | [] => .done (number 0) []
    | c :: behind =>
      if c = 'e' ∨ c = 'E' then
        match Decimal.Numeral.exponent? behind with
        | some (exponent, rest) => .done (number exponent) rest
        | none => .broken
      else .done (number 0) rest

/-- Reads one of the words for a fixed value. -/
def constant : Reader := fun cs =>
  match keyword? "true".toList cs with
  | some rest => .done (literal (.bool true)) rest
  | none =>
    match keyword? "false".toList cs with
    | some rest => .done (literal (.bool false)) rest
    | none =>
      match keyword? "null".toList cs with
      | some rest => .done (literal .null) rest
      | none => .absent

/-- Reads a formula in parentheses. -/
def parenthesized (inner : Reader) : Reader
  | '(' :: rest =>
    (inner rest).andThen fun f rest =>
      match rest with
      | ')' :: rest => .done f rest
      | _ => .absent
  | _ => .absent

/-- Reads a comma with the space around it. -/
def comma? (cs : List Char) : Option (List Char) :=
  match skipSpace cs with
  | ',' :: rest => some (skipSpace rest)
  | _ => none

/-- Reads further arguments behind the ones read before, which are given last
one first; `fuel` bounds their number. -/
def moreArguments (inner : Reader) : Nat → List Formula → List Char → Read (List Formula)
  | 0, args, cs => .done args.reverse cs
  | fuel + 1, args, cs =>
    match comma? cs with
    | none => .done args.reverse cs
    | some rest =>
      match inner rest with
      | .done arg rest => moreArguments inner fuel (arg :: args) rest
      | .absent => .done args.reverse cs
      | .broken => .broken

/-- Reads arguments separated by commas; there may be none. -/
def arguments (inner : Reader) (cs : List Char) : Read (List Formula) :=
  match inner cs with
  | .done arg rest => moreArguments inner rest.length [arg] rest
  | .absent => .done [] cs
  | .broken => .broken

/-- Reads a function with its arguments. A comma may stand behind the last
one. -/
def functionCall (inner : Reader) : Reader := fun cs =>
  match name? cs with
  | none => .absent
  | some (function, rest) =>
    match skipSpace rest with
    | '(' :: rest =>
      (arguments inner (skipSpace rest)).andThen fun args rest =>
        match (comma? rest).getD rest with
        | ')' :: rest => .done (call function args) rest
        | _ => .absent
    | _ => .absent

/-- Reads an operand without an operator in front, with the space around
it. -/
def primary (inner : Reader) : Reader := fun cs =>
  let cs := skipSpace cs
  let read :=
    (parenthesized inner cs).orElse fun _ =>
      (textLiteral cs).orElse fun _ =>
        (numberLiteral cs).orElse fun _ =>
          (constant cs).orElse fun _ =>
            (functionCall inner cs).orElse fun _ =>
              .ofOption ((name? cs).map fun (n, rest) => (name n, rest))
  read.andThen fun f rest => .done f (skipSpace rest)

/-- Reads an operand with the operators in front of it. An operator without an
operand behind it is no operator, and its word may then be a name; `fuel`
bounds the depth of the formula. -/
def operand : Nat → Reader
  | 0, _ => .absent
  | fuel + 1, cs =>
    let signed : Read Formula :=
      match unaryOperator? (skipSpace cs) with
      | none => .absent
      | some (op, rest) =>
        (operand fuel (skipSpace rest)).andThen fun f rest => .done (unary op f) rest
    signed.orElse fun _ => primary (formula (operand fuel)) cs

/-- Reads a whole text as a formula. Every level of nesting takes up a
character, so a depth of one more than the length is enough. -/
def parse (source : String) : Except FormulaError Formula :=
  let cs := Chars.trim source.toList
  match formula (operand (cs.length + 1)) cs with
  | .done f [] => .ok f
  | .done _ rest => .error (.malformed source (.leftover (.ofList rest)))
  | .absent => .error (.malformed source .unreadable)
  | .broken => .error (.malformed source .noExponentDigits)

end Lineage.Formula
