import Lineage.Formula.Grammar
import Lineage.Text.Case

/-!
# The value of a formula

Evaluation goes from left to right; `or` and `and` leave out their right
operand when the left one decides. Conditions ask for the truth of a formula,
assignments for its text.
-/

namespace Lineage

namespace Formula

/-! ## Functions on values -/

/-- The bounds of the part of `size` characters that `start` and `length`
select. A negative start or length counts from the end; without a length the
part reaches to the end. Sums are kept within 64 bits. -/
def partBounds (size start : Int) (length : Option Int) : Int × Int :=
  let first := if start < 0 then max 0 (Decimal.within64 (size + start)) else min start size
  let last :=
    match length with
    | none => size
    | some l =>
      if l < 0 then Decimal.within64 (size + l) else min (Decimal.within64 (first + l)) size
  (first, max first last)

/-- The part of a text that `start` and `length` select. -/
def part (s : String) (start : Int) (length : Option Int) : String :=
  let cs := s.toList
  let (first, last) := partBounds cs.length start length
  .ofList ((cs.take last.toNat).drop first.toNat)

/-- A whole number of 64 bits taken from a value. -/
def wholeNumber (v : Value) : Int :=
  Decimal.toInt64 v.toNumber

/-- Fills in the specifiers of a format: `%s` for a text, `%d` for a whole
number, `%f` for a number with six digits behind the point, `%%` for a percent
sign. -/
def fillFormat : List Char → List Value → Except CallFault String
  | [], _ => .ok ""
  | ['%'], _ => .error .incompleteSpecifier
  | '%' :: '%' :: rest, values => (fillFormat rest values).map ("%" ++ ·)
  | '%' :: _ :: _, [] => .error .tooFewArguments
  | '%' :: spec :: rest, value :: values => do
    let text ←
      match spec with
      | 's' => .ok value.toText
      | 'd' => .ok (Value.numberText (Decimal.truncate value.toNumber))
      | 'f' => .ok (Decimal.fixed 6 value.toNumber)
      | other => .error (.unsupportedSpecifier other)
    (fillFormat rest values).map (text ++ ·)
  | c :: rest, values => (fillFormat rest values).map (String.singleton c ++ ·)

/-- Applies a function of one text. -/
def onText (function : String) (f : String → Value) : List Value → Except FormulaError Value
  | [v] => .ok (f v.toText)
  | _ => .error (.call function .oneArgument)

/-- Applies a function. Its name counts in letters of either case. -/
def apply (function : String) (args : List Value) : Except FormulaError Value :=
  match Text.asciiLower function with
  | "strlen" => onText function (fun s => .number (Float.ofNat s.length)) args
  | "substr" =>
    match args with
    | [s, start] => .ok (.text (part s.toText (wholeNumber start) none))
    | [s, start, length] => .ok (.text (part s.toText (wholeNumber start) (wholeNumber length)))
    | _ => .error (.call "substr" .twoOrThreeArguments)
  | "sprintf" =>
    match args with
    | [] => .error (.call "sprintf" .noFormat)
    | format :: values =>
      match fillFormat format.toText.toList values with
      | .ok s => .ok (.text s)
      | .error fault => .error (.call "sprintf" fault)
  | "strtoupper" | "upper" => onText function (fun s => .text (Text.upper s)) args
  | "strtolower" | "lower" => onText function (fun s => .text (Text.lower s)) args
  | "trim" => onText function (fun s => .text (Text.trim s)) args
  | _ => .error (.call function .unknown)

/-! ## Operators on values -/

/-- Applies an operator to the value of its operand. -/
def applyUnary (op : UnaryOperator) (v : Value) : Value :=
  match op with
  | .not => .bool !v.toBool
  | .minus => .number (-v.toNumber)
  | .plus => .number v.toNumber

/-- Applies an operator to the values of its operands. -/
def applyBinary (op : BinaryOperator) (l r : Value) : Except FormulaError Value :=
  let order := l.compare r
  match op with
  | .or => .ok (.bool (l.toBool || r.toBool))
  | .and => .ok (.bool (l.toBool && r.toBool))
  | .equals => .ok (.bool (l.equal r))
  | .notEquals => .ok (.bool !l.equal r)
  | .identical => .ok (.bool (l.identical r))
  | .notIdentical => .ok (.bool !l.identical r)
  | .less => .ok (.bool (order == some .lt))
  | .lessOrEqual => .ok (.bool (order == some .lt || order == some .eq))
  | .greater => .ok (.bool (order == some .gt))
  | .greaterOrEqual => .ok (.bool (order == some .gt || order == some .eq))
  | .plus => .ok (.number (l.toNumber + r.toNumber))
  | .minus => .ok (.number (l.toNumber - r.toNumber))
  | .times => .ok (.number (l.toNumber * r.toNumber))
  | .concat => .ok (.text (l.toText ++ r.toText))
  | .divide =>
    let divisor := r.toNumber
    if divisor == 0.0 then .error .divisionByZero else .ok (.number (l.toNumber / divisor))
  | .modulo =>
    let divisor := Decimal.truncate r.toNumber
    if divisor == 0.0 then .error .moduloByZero
    else .ok (.number (Decimal.remainder (Decimal.truncate l.toNumber) divisor))

mutual

/-- The value of a formula. A bare name has none. -/
def evaluate : Formula → Except FormulaError Value
  | literal v => .ok v
  | name n => .error (.bareName n)
  | unary op f => do
    let v ← evaluate f
    return applyUnary op v
  | binary op left right => do
    let l ← evaluate left
    if op = .or ∧ l.toBool then return .bool true
    if op = .and ∧ !l.toBool then return .bool false
    let r ← evaluate right
    applyBinary op l r
  | call function args => do
    let values ← evaluateAll args
    apply function values

/-- The values of a list of formulas. -/
def evaluateAll : List Formula → Except FormulaError (List Value)
  | [] => .ok []
  | f :: rest => do
    let v ← evaluate f
    let values ← evaluateAll rest
    return v :: values

end

/-- The value of a text that is a formula. -/
def value (source : String) : Except FormulaError Value := do
  evaluate (← parse source)

/-- Whether a condition holds. -/
def holds (source : String) : Except FormulaError Bool := do
  return (← value source).toBool

/-- Whether a text holds two digits with an arithmetic operator, and perhaps
blanks, between them. -/
def hasArithmetic : List Char → Bool
  | [] => false
  | c :: rest => (Chars.isDecimal c && operatorAndDigit (Chars.trimStart rest)) || hasArithmetic rest
where
  /-- An arithmetic operator, blanks and a digit. -/
  operatorAndDigit : List Char → Bool
    | [] => false
    | op :: rest =>
      (op == '+' || op == '-' || op == '*' || op == '/') &&
        (Chars.trimStart rest).head?.any Chars.isDecimal

/-- The text that an assignment stores. A text with integer arithmetic in it
is evaluated as a formula. A text that still holds an at sign afterwards names
something that is not there and becomes empty. -/
def assigned (source : String) : Except FormulaError String := do
  let text ← if hasArithmetic source.toList then (value source).map Value.toText else .ok source
  return if text.toList.contains '@' then "" else text

end Formula

end Lineage
