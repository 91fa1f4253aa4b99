import Calculator.Evaluator.Basic
import Calculator.Sample
import Calculator.Value.Spelled

/-!
# The real evaluator

Real numbers: integers stay exact as long as an operation keeps them integers,
all else is binary64. Powers and factorials that are too large are infinite.
-/

namespace Calculator

namespace RealOperation

/-- The value of a real function as the value of an operation. -/
def ofResult (result : RealResult) : Except Fault Value :=
  match result with
  | .ok y => .ok (.float y)
  | .error detail => .error (.detailed detail)

def function (f : Binary64 → RealResult) : Operation :=
  .unary fun x => do ofResult (f (← x.toBinary64))

/-- A function whose infinite values at finite places are poles. -/
def withPoles (f : Binary64 → Binary64) : Operation := function (RealFunction.withPoles f)

/-- A function whose infinite values at finite places are overflows. -/
def withOverflow (f : Binary64 → Binary64) : Operation := function (RealFunction.withOverflow f)

/-- The angle of a point, given by its ordinate and its abscissa. -/
def angle : Operation :=
  .binary fun y x => do .ok (.float (Binary64.atan2 (← y.toBinary64) (← x.toBinary64)))

def reciprocal (f : Binary64 → Binary64) : Operation :=
  .unarySteps fun x => do
    let y ← ofResult (RealFunction.withPoles f (← x.toBinary64))
    (Value.int 1).div y

/-- A logarithm, for integers of any size. -/
def logarithm (log : Binary64 → Binary64) (x : Value) : Except Fault Value :=
  match x.int? with
  | some n => ofResult (RealFunction.logOfInt log n)
  | none => do ofResult (RealFunction.withPoles log (← x.toBinary64))

/-- The natural logarithm, or the logarithm to a given base. -/
def naturalLogarithm : Operation
  | [x] => logarithm Binary64.log x
  | [x, base] => do (← logarithm Binary64.log x).div (← logarithm Binary64.log base)
  | _ => .error .refused

/-- A number rounded to an integer, or to a number of places. -/
def rounding : Operation
  | [x] => x.round
  | [x, places] => x.roundTo places
  | _ => .error .refused

/-- Whether an exponent is odd, which a text may spell as well. A text that spells
an integral number but no integer is no exponent. -/
def isOddExponent : Value → Except Fault Bool
  | .text s =>
    match Spelled.real? s with
    | none => .error .undetailed
    | some x =>
      if x.isIntegral then
        match Spelled.integer? s with
        | some n => .ok (n % 2 == 1)
        | none => .error .undetailed
      else .ok false
  | y => do
    let x ← y.toBinary64
    match y.int? with
    | some n => .ok (n % 2 == 1)
    | none => .ok x.isOddIntegral

/-- The infinity that takes the place of a power too large: negative for an odd
power of a negative number. -/
def saturatedPower (x y : Value) : Except Fault Value := do
  if ← x.relates .less (.int 0) then .ok (.float (Binary64.infinity (← isOddExponent y)))
  else .ok (.float (Binary64.infinity false))

/-- A power of binary64 numbers; one that is too large is infinite. -/
def power (x y : Value) : Except Fault Value :=
  let attempt := do
    let base ← x.toBinary64
    let exponent ← y.toBinary64
    ofResult (RealFunction.power base exponent)
  match attempt with
  | .error (.domain none) => saturatedPower x y
  | .error (.domain (some .overflow)) => saturatedPower x y
  | result => result

/-- The factorial of a number: infinite above 170, by the gamma function between
integers. -/
def factorialOf (x : Value) : Except Fault Value := do
  if ← x.relates .greater (.int 170) then .ok (.float (Binary64.infinity false))
  else
    let y ← x.toBinary64
    if y.isIntegral then
      if y.lt 0 then .error .undetailed
      else .ok (.float (Binary64.ofInt (factorial y.truncate.toNat)))
    else ofResult (RealFunction.gamma (y + 1))

/-- The first of the greatest or the least arguments, or of the items of a single
one. -/
def extremum (relation : Relation) : Operation
  | [] => .error .refused
  | [single] =>
    let items := match single with
      | .text s => some (s.toList.map fun c => .text (String.singleton c))
      | single => single.items?
    match items with
    | none => .error .refused
    | some [] => .error .undetailed
    | some (first :: rest) => Value.extremum relation first rest
  | first :: rest => Value.extremum relation first rest

def statistic (f : Sample → Except Fault Binary64) : Operation := fun operands =>
  inside do .ok (.float (← f (← Sample.ofValues operands)))

def circular : List (String × Operation) :=
  [("sin", withPoles Binary64.sin), ("cos", withPoles Binary64.cos),
    ("tan", withPoles Binary64.tan), ("asin", withPoles Binary64.asin),
    ("acos", withPoles Binary64.acos), ("atan", withPoles Binary64.atan),
    ("arcsin", withPoles Binary64.asin), ("arccos", withPoles Binary64.acos),
    ("arctan", withPoles Binary64.atan), ("atan2", angle), ("sec", reciprocal Binary64.cos),
    ("csc", reciprocal Binary64.sin), ("cot", reciprocal Binary64.tan),
    ("sinh", withOverflow Binary64.sinh), ("cosh", withOverflow Binary64.cosh),
    ("tanh", withPoles Binary64.tanh), ("asinh", withPoles Binary64.asinh),
    ("acosh", withPoles Binary64.acosh), ("atanh", withPoles Binary64.atanh),
    ("arcsinh", withPoles Binary64.asinh), ("arccosh", withPoles Binary64.acosh),
    ("arctanh", withPoles Binary64.atanh),
    ("deg", function fun x => .ok (RealFunction.radians x))]

def exponential : List (String × Operation) :=
  [("^", .binarySteps power), ("exp", withOverflow Binary64.exp), ("ln", naturalLogarithm),
    ("lg", .unary (logarithm Binary64.log2)), ("log", .unary (logarithm Binary64.log10)),
    ("sqrt", withPoles Binary64.sqrt)]

def arithmetic : List (String × Operation) :=
  [("abs", .unary Value.abs), ("ceil", .unary Value.ceil), ("floor", .unary Value.floor),
    ("round", rounding), ("+", .binary Value.add), ("-", .binary Value.sub),
    ("*", .binary Value.mul), ("/", .binary Value.div), ("//", .binary Value.floorDiv),
    ("%", .binarySteps Value.mod), ("mod", .binarySteps Value.mod),
    ("negate", .unary Value.neg), ("!", .unarySteps factorialOf)]

def statistics : List (String × Operation) :=
  [(",", .comma), ("sum", statistic Sample.sum), ("min", extremum .less),
    ("max", extremum .greater), ("mean", statistic Sample.mean), ("ave", statistic Sample.mean),
    ("var", statistic Sample.variance), ("variance", statistic Sample.variance),
    ("std", statistic Sample.deviation)]

def table : List (String × Operation) :=
  circular ++ exponential ++ arithmetic ++ Operation.comparisons ++ statistics

def constants : List (String × Binary64) :=
  [("pi", Binary64.pi), ("e", Binary64.exponential), ("phi", Binary64.goldenRatio)]

end RealOperation

def Evaluator.real : Evaluator :=
  { constants := RealOperation.constants.map fun entry =>
      (entry.1, (Value.float entry.2).ofConstant entry.1)
    operations := RealOperation.table }

end Calculator
