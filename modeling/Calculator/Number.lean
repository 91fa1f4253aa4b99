import Calculator.Binary64.Arithmetic
import Calculator.Decimal.Layout

/-!
# Numbers

A number literal stands for an integer of any size or for a binary64 number.
The two kinds are compared by value, without rounding.
-/

namespace Calculator

inductive Number
  | int (n : Int)
  | float (x : Binary64)
deriving DecidableEq

namespace Number

def text : Number → String
  | int n => toString n
  | float x => x.text

/-- Equality of values across the two kinds. -/
def same : Number → Number → Bool
  | int m, int n => m == n
  | int n, float x => x.compareInt? n == some .eq
  | float x, int n => x.compareInt? n == some .eq
  | float x, float y => x.eq y

end Number

end Calculator
