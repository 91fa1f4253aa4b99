import Calculator.Fault
import Calculator.Token.Literal

/-!
# Values

What the evaluation of a tree yields: numbers of three kinds, truth values,
texts, lists, and nothing. A list of arguments is one that commas have made.
-/

namespace Calculator

inductive Scalar
  | int (n : Int)
  | float (x : Binary64)
  | complex (z : ComplexNumber)
deriving DecidableEq

/-- A value. A constant whose value is `nan` keeps its name: it is not equal to
itself as a number, but it is one and the same thing wherever it appears. -/
inductive Value
  | int (n : Int)
  | float (x : Binary64)
  | complex (z : ComplexNumber)
  | bool (b : Bool)
  | text (s : String)
  | nothing
  | undefined (name : String) (number : Scalar)
  | arguments (items : List Value)
  | list (items : List Value)

def Scalar.text : Scalar → String
  | int n => toString n
  | float x => x.text
  | complex z => z.text

namespace Value

instance : Inhabited Value := ⟨nothing⟩

def ofNumber : Number → Value
  | .int n => int n
  | .float x => float x

def ofLiteral : Literal → Value
  | .number value => ofNumber value
  | .complex z => complex z
  | .truth b => bool b
  | .text s => text s

def ofScalar : Scalar → Value
  | .int n => int n
  | .float x => float x
  | .complex z => complex z

/-- A value as a number; truth values count as one and zero. -/
def scalar? : Value → Option Scalar
  | int n => some (.int n)
  | float x => some (.float x)
  | complex z => some (.complex z)
  | bool b => some (.int (if b then 1 else 0))
  | undefined _ number => some number
  | _ => none

/-- The value of the constant with the given name. -/
def ofConstant (value : Value) (name : String) : Value :=
  match value with
  | float x => if x.isNaN then undefined name (.float x) else value
  | complex z => if z.re.isNaN || z.im.isNaN then undefined name (.complex z) else value
  | value => value

/-- The items of a list of either kind. -/
def items? : Value → Option (List Value)
  | arguments items => some items
  | list items => some items
  | _ => none

/-- A value that is an integer or a truth value, as an integer. -/
def int? (value : Value) : Option Int :=
  match value.scalar? with
  | some (.int n) => some n
  | _ => none

mutual

/-- How a value is shown inside a list: texts are quoted. -/
def quoted : Value → String
  | int n => toString n
  | float x => x.text
  | complex z => z.text
  | bool b => if b then "True" else "False"
  | text s => Text.quoted s
  | nothing => "None"
  | undefined _ number => number.text
  | arguments items => "[" ++ ", ".intercalate (quotedAll items) ++ "]"
  | list items => "[" ++ ", ".intercalate (quotedAll items) ++ "]"

def quotedAll : List Value → List String
  | [] => []
  | item :: rest => item.quoted :: quotedAll rest

end

def shown : Value → String
  | text s => s
  | value => value.quoted

end Value

namespace Scalar

/-- The binary64 number nearest to a real number, if there is a finite one. -/
def toBinary64 : Scalar → Except Fault Binary64
  | int n =>
    match Binary64.ofInt? n with
    | some x => .ok x
    | none => .error .undetailed
  | float x => .ok x
  | complex _ => .error .refused

def toComplex : Scalar → Except Fault ComplexNumber
  | complex z => .ok z
  | int n => (int n).toBinary64.map ComplexNumber.ofReal
  | float x => .ok (.ofReal x)

end Scalar

namespace Value

/-- A value as a binary64 number; other values are refused. -/
def toBinary64 (value : Value) : Except Fault Binary64 :=
  match value.scalar? with
  | some scalar => scalar.toBinary64
  | none => .error .refused

/-- A value as a complex number; other values are refused. -/
def toComplex (value : Value) : Except Fault ComplexNumber :=
  match value.scalar? with
  | some scalar => scalar.toComplex
  | none => .error .refused

/-- A value as an integer; others than integers and truth values are refused. -/
def toInt (value : Value) : Except Fault Int :=
  match value.int? with
  | some n => .ok n
  | none => .error .refused

end Value

end Calculator
