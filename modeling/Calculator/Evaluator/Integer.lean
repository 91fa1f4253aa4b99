import Calculator.Evaluator.Basic

/-!
# The integer evaluator

Exact arithmetic on integers of any size. Literals have to be integers, though
they may be written with a point or an exponent.
-/

namespace Calculator

namespace IntegerOperation

/-- The literals of the integer evaluator: integers, and binary64 numbers that
are integers. -/
def literal : Value → Except Fault Value
  | .int n => .ok (.int n)
  | .bool b => .ok (.bool b)
  | .float x =>
    if x.isIntegral then .ok (.int x.truncate) else .error (.detailed (.notIntegral (.float x)))
  | _ => .error .refused

def isZero (x : Value) : Bool := x.same (.int 0)

/-- Division that drops the fraction. The quotient of the absolute values takes
the sign that the operands give it. -/
def divide (x y : Value) : Except Fault Value :=
  if isZero y then .error .divisionByZero
  else do
    let quotient ← (← x.abs).floorDiv (← y.abs)
    let positive ← x.relates .greaterOrEqual (.int 0)
    if positive == (← y.relates .greaterOrEqual (.int 0)) then .ok quotient else quotient.neg

/-- A power with a nonnegative exponent. -/
def power (x y : Value) : Except Fault Value := do
  if ← y.relates .less (.int 0) then .error (.detailed .negativeExponent) else x.power y

/-- The factorial of a natural number that fits into a machine word. -/
def factorialOf (x : Value) : Except Fault Value := do
  let n ← x.toInt
  if n < 0 ∨ 0x8000000000000000 ≤ n then .error .undetailed else .ok (.int (factorial n.toNat))

def gcd : Operation := fun operands => do
  let numbers ← operands.mapM Value.toInt
  let divisor : Nat := numbers.foldl (fun divisor n => Nat.gcd divisor n.natAbs) 0
  .ok (.int divisor)

def lcm : Operation := fun operands => do
  let numbers ← operands.mapM Value.toInt
  let multiple : Nat := numbers.foldl (fun multiple n => Nat.lcm multiple n.natAbs) 1
  .ok (.int multiple)

def table : List (String × Operation) :=
  [("+", .binary Value.add), ("-", .binary Value.sub), ("*", .binary Value.mul),
    ("/", .binarySteps divide), ("//", .binary Value.floorDiv), ("%", .binary Value.mod),
    ("mod", .binary Value.mod), ("^", .binarySteps power), ("negate", .unary Value.neg),
    ("!", .unary factorialOf), ("abs", .unary Value.abs), ("gcd", gcd), ("lcm", lcm),
    (",", .comma)]
  ++ Operation.comparisons

end IntegerOperation

/-- The integer evaluator; it knows no constants. -/
def Evaluator.integer : Evaluator :=
  { constants := [], operations := IntegerOperation.table, literal := IntegerOperation.literal }

end Calculator
