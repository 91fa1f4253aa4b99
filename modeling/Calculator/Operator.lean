import Calculator.Token.Basic

/-!
# Operators

The known operators, how tightly they bind in each position, and which of two
operators takes an operand that stands between them
(`Operator.bindsTighter`). Every other text, such as the name of a function, is
an operator too and has the default precedence of its position.
-/

namespace Calculator

/-- The known operators, and one for all other texts. -/
inductive Operator
  | plus
  | minus
  | multiply
  | divide
  | floorDivide
  | power
  | modulo
  | assign
  | equal
  | notEqual
  | lessThan
  | lessEqual
  | greaterThan
  | greaterEqual
  | comma
  | factorial
  | degrees
  | negate
  | other
deriving DecidableEq

namespace Operator

/-- The operators in their customary order, each with its name and spelling. -/
def table : List (Operator × String × String) :=
  [(plus, "PLUS", "+"), (minus, "MINUS", "-"), (multiply, "MULTIPLY", "*"),
    (divide, "DIVIDE", "/"), (floorDivide, "FLOOR_DIVIDE", "//"), (power, "POWER", "^"),
    (modulo, "MODULO", "%"), (assign, "ASSIGN", "="), (equal, "EQUAL", "=="),
    (notEqual, "NOT_EQUAL", "!="), (lessThan, "LESS_THAN", "<"), (lessEqual, "LESS_EQUAL", "<="),
    (greaterThan, "GREATER_THAN", ">"), (greaterEqual, "GREATER_EQUAL", ">="),
    (comma, "COMMA", ","), (factorial, "FACTORIAL", "!"), (degrees, "DEGREES", "deg"),
    (negate, "NEGATE", "negate")]

def ofText (text : String) : Operator :=
  match table.find? (·.2.2 == text) with
  | some row => row.1
  | none => other

def name (operator : Operator) : String :=
  match table.find? (·.1 == operator) with
  | some row => row.2.1
  | none => "OTHER"

/-- The precedence of the operators that stand between two operands. -/
def infixedPrecedence? : Operator → Option Int
  | assign | equal | notEqual | lessThan | lessEqual | greaterThan | greaterEqual => some 0
  | plus | minus | modulo => some 1
  | multiply | divide | floorDivide => some 2
  | power => some 4
  | comma => some (-1)
  | factorial | degrees | negate | other => none

/-- The precedence of the signs that stand before their operand. -/
def prefixedPrecedence? : Operator → Option Int
  | minus | negate => some 2
  | _ => none

/-- The precedence of the operators that stand behind their operand. -/
def suffixedPrecedence? : Operator → Option Int
  | factorial | degrees => some 3
  | _ => none

/-- The precedence of a text in the given position; without one, the position
between operands is meant. -/
def precedence (text : String) (fixity : Option Fixity) : Int :=
  let operator := ofText text
  match fixity with
  | none | some .infixed => operator.infixedPrecedence?.getD 1
  | some .prefixed => operator.prefixedPrecedence?.getD 2
  | some .suffixed => operator.suffixedPrecedence?.getD 2

/-- Whether a chain of an operator nests to the right. -/
def isRightAssociative (text : String) : Bool :=
  match ofText text with
  | power | assign => true
  | _ => false

/-- Whether a text stands behind its operand. -/
def isSuffixed (text : String) : Bool := (ofText text).suffixedPrecedence?.isSome

def isInfixed (text : String) : Bool := (ofText text).infixedPrecedence?.isSome

/-- Whether an operator takes an operand from the active one. An operator takes
it from none, and none takes it from anything. Two that nest to the right do so
at equal precedence. -/
def bindsTighter (operator active : Option Token) : Bool :=
  match operator, active with
  | none, _ => false
  | some _, none => true
  | some operator, some active =>
    let own := precedence operator.lexeme operator.fixity
    let other := precedence active.lexeme active.fixity
    if isRightAssociative operator.lexeme && isRightAssociative active.lexeme then
      decide (other ≤ own)
    else decide (other < own)

end Operator

end Calculator
