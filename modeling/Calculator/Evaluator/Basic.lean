import Calculator.Tree.Basic
import Calculator.Value.Arguments
import Calculator.Value.Arithmetic
import Calculator.Value.Order

/-!
# Evaluators

An evaluator gives values to constants and operations to operators; it may have
an operation for all other operators and a rule for literals. `Evaluator.evaluate`
computes a tree from the leaves up, operands from left to right, and reports the
first failure with the token it arose at. Values and faults may be of any type;
the evaluators that are defined here have values of type `Value` and faults of
type `Fault`. A host's own limit on the depth of recursion is left out.
-/

namespace Calculator

/-- What an operator does with its operands. -/
abbrev Operation (V : Type := Value) (ε : Type := Fault) := List V → Except ε V

namespace Operation

variable {V ε : Type} [FaultLike ε]

def unary (f : V → Except ε V) : Operation V ε
  | [x] => f x
  | _ => .error FaultLike.refusal

def binary (f : V → V → Except ε V) : Operation V ε
  | [x, y] => f x y
  | _ => .error FaultLike.refusal

/-- An operation with one operand that is computed in several steps: it refuses
another count of operands, but breaks down on operands of a wrong kind. -/
def unarySteps (f : Value → Except Fault Value) : Operation := unary fun x => inside (f x)

def binarySteps (f : Value → Value → Except Fault Value) : Operation :=
  binary fun x y => inside (f x y)

def comma [ValueLike V] : Operation V ε := binary fun x y => .ok (ValueLike.comma x y)

/-- The comparison operations, which are the same for real numbers and
integers. -/
def comparisons : List (String × Operation) :=
  [("==", binary fun x y => .ok (.bool (x.same y))),
    ("!=", binary fun x y => .ok (.bool (!x.same y))),
    ("<", binary fun x y => (x.relates .less y).map .bool),
    ("<=", binary fun x y => (x.relates .lessOrEqual y).map .bool),
    (">", binary fun x y => (x.relates .greater y).map .bool),
    (">=", binary fun x y => (x.relates .greaterOrEqual y).map .bool)]

end Operation

/-- Why a tree has no value: a problem of the expression, or a breakdown by a fault
that is not reported as one. -/
inductive Failure (ε : Type := Fault)
  | problem (problem : EvaluationProblem)
  | breakdown (fault : ε)
deriving DecidableEq

/-- The values of constants, the operations of operators, an operation for other
operators, which also receives their name, and a rule for literals. -/
structure Evaluator (V : Type := Value) (ε : Type := Fault) where
  constants : List (String × V)
  operations : List (String × Operation V ε)
  fallback : Option (String → Operation V ε) := none
  literal : V → Except ε V := .ok

namespace Evaluator

variable {V ε : Type}

/-- The operation of an operator: its own one or the one for all others. -/
def operation? (evaluator : Evaluator V ε) (name : String) : Option (Operation V ε) :=
  (evaluator.operations.lookup name).or (evaluator.fallback.map (· name))

variable [ValueLike V] [FaultLike ε]

/-- What a fault in the operation of a token means for the tree. -/
def blame (token : Token) (fault : ε) : Failure ε :=
  match FaultLike.cause fault with
  | .divisionByZero => .problem (.divisionByZero token)
  | .domain detail => .problem (.domainError token detail)
  | .refused detail => .problem (.domainError token detail)
  | .other => .breakdown fault

/-- What a fault in the rule for literals means for the tree. The rule is not
expected to divide or to refuse a literal: that breaks it. -/
def blameLiteral (token : Token) (fault : ε) : Failure ε :=
  match FaultLike.cause fault with
  | .domain detail => .problem (.domainError token detail)
  | .divisionByZero | .refused _ | .other => .breakdown fault

def leafValue (evaluator : Evaluator V ε) (token : Token) : Except (Failure ε) V :=
  if token.isConstant then
    match evaluator.constants.lookup token.lexeme with
    | some value => .ok value
    | none => .error (.problem (.unknownConstant token))
  else
    (evaluator.literal (ValueLike.ofLiteral token.value)).mapError (blameLiteral token)

/-- The value of an operator applied to the values of its operands. -/
def apply (evaluator : Evaluator V ε) (token : Token) (operands : List V) :
    Except (Failure ε) V :=
  match evaluator.operation? token.lexeme with
  | some operation => (operation (ValueLike.spread operands)).mapError (blame token)
  | none => .error (.problem (.unknownFunction token))

def evaluate (evaluator : Evaluator V ε) : Tree → Except (Failure ε) V
  | .leaf token => evaluator.leafValue token
  | .unary operator operand => do
    let value ← evaluate evaluator operand
    evaluator.apply operator [value]
  | .binary operator left right => do
    let first ← evaluate evaluator left
    let second ← evaluate evaluator right
    evaluator.apply operator [first, second]

def evaluateAll (evaluator : Evaluator V ε) (trees : List Tree) : Except (Failure ε) (List V) :=
  trees.mapM evaluator.evaluate

end Evaluator

end Calculator
