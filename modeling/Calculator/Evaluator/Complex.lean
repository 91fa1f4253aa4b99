import Calculator.Elementary.Complex
import Calculator.Evaluator.Basic

/-!
# The complex evaluator

All literals and constants are complex. Comparison goes by absolute value and
allows for a small tolerance; rounding treats both parts alike.
-/

namespace Calculator

namespace ComplexOperation

/-- The largest difference that counts as equality. -/
def tolerance : Binary64 := 1e-12

/-- The real part of a number; other values have none. -/
def realPart (value : Value) : Except Fault Value :=
  match value.scalar? with
  | some (.complex z) => .ok (.float z.re)
  | some number => .ok (.ofScalar number)
  | none => .error (.broken .missingPart)

/-- The imaginary part of a number; other values have none. -/
def imaginaryPart (value : Value) : Except Fault Value :=
  match value.scalar? with
  | some (.complex z) => .ok (.float z.im)
  | some (.float _) => .ok (.float 0)
  | some (.int _) => .ok (.int 0)
  | none => .error (.broken .missingPart)

/-- The conjugate of a number; other values have none. -/
def conjugate (value : Value) : Except Fault Value :=
  match value.scalar? with
  | some (.complex z) => .ok (.complex z.conj)
  | some (.float _) => .ok value
  | some (.int n) => .ok (.int n)
  | none => .error (.broken .missingPart)

def asComplex (value : Value) : Except Fault Value := value.toComplex.map .complex

/-- The value of a complex function at a number. -/
def applied (f : ComplexNumber → ComplexResult) (value : Value) : Except Fault Value := do
  match f (← value.toComplex) with
  | .ok z => .ok (.complex z)
  | .error detail => .error (.detailed detail)

def function (f : ComplexNumber → ComplexResult) : Operation := .unary (applied f)

/-- A complex function with a value everywhere. -/
def everywhere (f : ComplexNumber → ComplexNumber) : Operation := function fun z => .ok (f z)

def reciprocal (f : ComplexNumber → ComplexResult) : Operation :=
  .unarySteps fun z => do (Value.int 1).div (← applied f z)

/-- The natural logarithm, or the logarithm to a given base. -/
def naturalLogarithm : Operation
  | [z] => applied ComplexFunction.log z
  | [z, base] => do
    let argument ← z.toComplex
    applied (ComplexFunction.logBase argument) base
  | _ => .error .refused

def phase (z : Value) : Except Fault Value := do
  match ComplexFunction.phase (← z.toComplex) with
  | .ok turn => asComplex (.float turn)
  | .error detail => .error (.detailed detail)

/-- Whether a value lies within the tolerance of zero. -/
def isNegligible (x : Value) : Except Fault Bool := do
  (← x.abs).relates .less (.float tolerance)

/-- The angle of a point, given by its ordinate and its abscissa. Both may be
complex. -/
def angle (y x : Value) : Except Fault Value := do
  let bothReal ←
    if ← isNegligible (← imaginaryPart y) then isNegligible (← imaginaryPart x) else .ok false
  if bothReal then
    let ordinate ← (← realPart y).toBinary64
    let abscissa ← (← realPart x).toBinary64
    asComplex (.float (Binary64.atan2 ordinate abscissa))
  else
    let point ← x.add (← (Value.complex .unit).mul y)
    let square ← (← x.mul x).add (← y.mul y)
    let direction ← point.div (← applied (fun z => .ok (ComplexFunction.sqrt z)) square)
    (Value.complex (-.unit)).mul (← applied ComplexFunction.log direction)

def radians (z : Value) : Except Fault Value := do
  (← z.mul (.float Binary64.pi)).div (.int 180)

def partwise (f : Value → Except Fault Value) (z : Value) : Except Fault Value := do
  let re ← f (← realPart z)
  let im ← f (← imaginaryPart z)
  .ok (.complex ⟨← re.toBinary64, ← im.toBinary64⟩)

/-- The quotient with its parts rounded down. -/
def floorDiv (x y : Value) : Except Fault Value := do partwise Value.floor (← x.div y)

/-- What the rounded quotient leaves. -/
def mod (x y : Value) : Except Fault Value := do x.sub (← y.mul (← floorDiv x y))

/-- The factorial of a natural number. The largest one that is finite is that
of 170. -/
def factorialOf (z : Value) : Except Fault Value := do
  let re ← realPart z
  let natural ←
    if ← isNegligible (← imaginaryPart z) then
      if (← re.toBinary64).isIntegral then re.relates .greaterOrEqual (.int 0) else .ok false
    else .ok false
  if natural then
    let n := (← re.toBinary64).truncate.toNat
    if 170 < n then .error .undetailed else asComplex (.int (factorial n))
  else .error (.detailed .notFactorable)

def isEqual (x y : Value) : Except Fault Bool := do isNegligible (← x.sub y)

/-- A comparison of absolute values, where the tolerance is added to the second
one or taken from it. -/
def comparison (relation : Relation) (adjust : Value → Value → Except Fault Value) :
    Operation :=
  .binarySteps fun x y => do
    let first ← x.abs
    let second ← adjust (← y.abs) (.float tolerance)
    .ok (.bool (← first.relates relation second))

def parts : List (String × Operation) :=
  let re := Operation.unarySteps fun z => do asComplex (← realPart z)
  let im := Operation.unarySteps fun z => do asComplex (← imaginaryPart z)
  [("re", re), ("real", re), ("im", im), ("imag", im), ("arg", .unarySteps phase),
    ("Arg", .unarySteps phase), ("abs", .unarySteps fun z => do asComplex (← z.abs)),
    ("conj", .unarySteps conjugate)]

def circular : List (String × Operation) :=
  [("sin", function ComplexFunction.sin), ("cos", function ComplexFunction.cos),
    ("tan", function ComplexFunction.tan), ("asin", everywhere ComplexFunction.asin),
    ("acos", everywhere ComplexFunction.acos), ("atan", function ComplexFunction.atan),
    ("arcsin", everywhere ComplexFunction.asin), ("arccos", everywhere ComplexFunction.acos),
    ("arctan", function ComplexFunction.atan), ("atan2", .binarySteps angle),
    ("sec", reciprocal ComplexFunction.cos), ("csc", reciprocal ComplexFunction.sin),
    ("cot", reciprocal ComplexFunction.tan), ("sinh", function ComplexFunction.sinh),
    ("cosh", function ComplexFunction.cosh), ("tanh", function ComplexFunction.tanh),
    ("asinh", everywhere ComplexFunction.asinh), ("acosh", everywhere ComplexFunction.acosh),
    ("atanh", function ComplexFunction.atanh), ("arcsinh", everywhere ComplexFunction.asinh),
    ("arccosh", everywhere ComplexFunction.acosh), ("arctanh", function ComplexFunction.atanh),
    ("deg", .unarySteps radians)]

def exponential : List (String × Operation) :=
  [("^", .binary Value.power), ("exp", function ComplexFunction.exp), ("ln", naturalLogarithm),
    ("log", function ComplexFunction.log10), ("sqrt", everywhere ComplexFunction.sqrt)]

/-- Rounding and arithmetic. The opposite of a number is its difference from
zero, whose imaginary part is not a negative zero. -/
def arithmetic : List (String × Operation) :=
  [("ceil", .unarySteps (partwise Value.ceil)), ("floor", .unarySteps (partwise Value.floor)),
    ("round", .unarySteps (partwise Value.round)), ("+", .binary Value.add),
    ("-", .binary Value.sub), ("*", .binary Value.mul), ("/", .binary Value.div),
    ("//", .binarySteps floorDiv), ("%", .binarySteps mod), ("mod", .binarySteps mod),
    ("negate", .unarySteps fun z => (Value.int 0).sub z), ("!", .unarySteps factorialOf)]

def comparisons : List (String × Operation) :=
  [("==", .binarySteps fun x y => do .ok (.bool (← isEqual x y))),
    ("!=", .binarySteps fun x y => do .ok (.bool (!(← isEqual x y)))),
    ("<", comparison .less Value.sub), ("<=", comparison .lessOrEqual Value.add),
    (">", comparison .greater Value.add), (">=", comparison .greaterOrEqual Value.sub)]

def table : List (String × Operation) :=
  parts ++ circular ++ exponential ++ arithmetic ++ comparisons ++ [(",", .comma)]

def constants : List (String × ComplexNumber) :=
  [("pi", .ofReal Binary64.pi), ("e", .ofReal Binary64.exponential),
    ("phi", .ofReal Binary64.goldenRatio), ("i", .unit), ("I", .unit)]

end ComplexOperation

def Evaluator.complex : Evaluator :=
  { constants := ComplexOperation.constants.map fun entry =>
      (entry.1, (Value.complex entry.2).ofConstant entry.1)
    operations := ComplexOperation.table
    literal := ComplexOperation.asComplex }

end Calculator
