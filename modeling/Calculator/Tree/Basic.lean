import Calculator.Token.Basic

/-!
# Operator trees

An expression as a tree: numbers and constants at the leaves, operators with one
or two operands above them. The outline of a tree keeps operators, names and
values and drops places and spellings.
-/

namespace Calculator

inductive Tree
  | leaf (token : Token)
  | unary (operator : Token) (operand : Tree)
  | binary (operator : Token) (left right : Tree)
deriving DecidableEq

/-- A tree without places: values, names, and operators over their operands. -/
inductive Outline
  | value (literal : Literal)
  | name (text : String)
  | unary (operator : String) (operand : Outline)
  | binary (operator : String) (left right : Outline)
deriving DecidableEq

namespace Outline

/-- Equality of outlines, where numbers are compared by value. -/
def same : Outline → Outline → Bool
  | value x, value y => x.same y
  | name a, name b => a == b
  | unary f x, unary g y => f == g && x.same y
  | binary f x y, binary g z w => f == g && x.same z && y.same w
  | _, _ => false

end Outline

namespace Tree

def root : Tree → Token
  | leaf token => token
  | unary operator _ => operator
  | binary operator _ _ => operator

def children : Tree → List Tree
  | leaf _ => []
  | unary _ operand => [operand]
  | binary _ left right => [left, right]

def text : Tree → String
  | leaf token => token.text
  | unary operator operand => operator.lexeme ++ "[ " ++ operand.text ++ " ]"
  | binary operator left right =>
    operator.lexeme ++ "[ " ++ left.text ++ "," ++ right.text ++ " ]"

/-- The outline of a tree. A leaf without a value is outlined by its name. -/
def outline : Tree → Outline
  | leaf token => token.value.elim (.name token.lexeme) .value
  | unary operator operand => .unary operator.lexeme operand.outline
  | binary operator left right => .binary operator.lexeme left.outline right.outline

/-- Equality of trees, places included, where literals are compared by value. -/
def same : Tree → Tree → Bool
  | leaf a, leaf b => a.same b
  | unary f x, unary g y => f.same g && x.same y
  | binary f x y, binary g z w => f.same g && x.same z && y.same w
  | _, _ => false

end Tree

end Calculator
