import Calculator.Operator
import Calculator.Problem
import Calculator.Tree.Basic

/-!
# Trees from postfix order

`Tree.ofPostfix` reads operators that stand behind their operands. A stack holds
the trees that have no operator yet; an operator of the kind that stands between
two operands takes the upper two, any other takes one.
-/

namespace Calculator

namespace Tree

def shift (stack : List Tree) (token : Token) : Except ParseProblem (List Tree) :=
  match token.kind with
  | .bracket => .error (.misplaced token .bracketInPostfix)
  | .number => .ok (leaf token :: stack)
  | .operator | .identifier =>
    if Operator.isInfixed token.lexeme then
      match stack with
      | right :: left :: rest =>
        .ok (binary { token with fixity := some .infixed } left right :: rest)
      | _ => .error (.missingOperand token .left)
    else
      let fixity := if Operator.isSuffixed token.lexeme then .suffixed else .prefixed
      match stack with
      | operand :: rest => .ok (unary { token with fixity := some fixity } operand :: rest)
      | [] => .error (.missingOperand token .left)

/-- The trees that tokens in postfix order spell, in order. -/
def ofPostfix (tokens : List Token) : Except ParseProblem (List Tree) :=
  (tokens.foldlM shift []).map List.reverse

end Tree

end Calculator
