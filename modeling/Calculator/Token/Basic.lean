import Calculator.Token.Literal

/-!
# Tokens

A token is a piece of the text of an expression: an operator, a bracket, a
number or an identifier, with the place where it starts. Tokens that are put in
by later stages have no place.
-/

namespace Calculator

/-- Where an operator stands relative to its operands. -/
inductive Fixity
  | prefixed
  | infixed
  | suffixed
deriving DecidableEq

namespace Fixity

/-- The fixities in their customary order. -/
def all : List Fixity := [prefixed, infixed, suffixed]

def name : Fixity → String
  | prefixed => "PREFIX"
  | infixed => "INFIX"
  | suffixed => "SUFFIX"

end Fixity

inductive TokenKind
  | operator
  | bracket
  | number
  | identifier
deriving DecidableEq

namespace TokenKind

/-- The kinds in their customary order. -/
def all : List TokenKind := [operator, bracket, number, identifier]

def name : TokenKind → String
  | operator => "OPERATOR"
  | bracket => "BRACKET"
  | number => "NUMBER"
  | identifier => "IDENTIFIER"

end TokenKind

/-- A token. Literals have a value; constants are numbers without one. -/
structure Token where
  kind : TokenKind
  lexeme : String
  value : Option Literal := none
  position : Int := -1
  fixity : Option Fixity := none
  isConstant : Bool := false
deriving DecidableEq

namespace Token

/-- Whether a token was put in rather than read. -/
def isSynthetic (token : Token) : Bool := decide (token.position < 0)

/-- How a token is shown inside an expression. -/
def text (token : Token) : String :=
  match token.kind, token.value with
  | .number, some value => value.shown
  | _, _ => token.lexeme

/-- A token with all that is known about it. -/
def description (token : Token) : String :=
  let parts := [token.kind.name, Text.quoted token.lexeme]
    ++ (token.value.map fun value => "value=" ++ value.shown).toList
    ++ (token.fixity.map fun fixity => "fixity=" ++ fixity.name).toList
    ++ (if token.isConstant then ["constant"] else [])
    ++ ["at " ++ toString token.position]
  "Token(" ++ ", ".intercalate parts ++ ")"

/-- Equality of tokens, where literals are compared by value. -/
def same (a b : Token) : Bool :=
  a.kind == b.kind && a.lexeme == b.lexeme && a.position == b.position
    && a.fixity == b.fixity && a.isConstant == b.isConstant
    && match a.value, b.value with
      | some x, some y => x.same y
      | none, none => true
      | _, _ => false

end Token

end Calculator
