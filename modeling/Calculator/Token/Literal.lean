import Calculator.ComplexNumber.Basic
import Calculator.Number
import Calculator.Text.Quoted

/-!
# Literals

What a token stands for by itself. Tokens that are read stand for numbers;
tokens made by hand may stand for a complex number, a truth value or a text.
-/

namespace Calculator

inductive Literal
  | number (value : Number)
  | complex (z : ComplexNumber)
  | truth (b : Bool)
  | text (s : String)
deriving DecidableEq

namespace Literal

/-- How a literal is shown: texts are quoted. -/
def shown : Literal → String
  | number value => value.text
  | complex z => z.text
  | truth b => if b then "True" else "False"
  | text s => Text.quoted s

/-- Equality of literals, where numbers are compared by value. -/
def same : Literal → Literal → Bool
  | number x, number y => x.same y
  | complex z, complex w => z.eq w
  | truth a, truth b => a == b
  | text s, text t => s == t
  | _, _ => false

end Literal

end Calculator
