import Calculator.Binary64.Arithmetic
import Calculator.Decimal.Basic

/-!
# Elementary functions of binary64 numbers

The transcendental functions are those of the machine. What can be rounded once
from the exact value is computed here instead: the length of a vector, and powers
of integers with integer exponents.
-/

namespace Calculator

namespace Binary64

/-- The number as a machine number. -/
def toFloat : Binary64 → Float
  | nan => Float.ofBits 0x7FF8000000000000
  | signed negative magnitude =>
    Float.ofBits (UInt64.ofNat ((if negative then 0x8000000000000000 else 0) + magnitude.rank))

def ofFloat (x : Float) : Binary64 :=
  let bits := x.toBits.toNat
  let sign := 0x8000000000000000
  if h : bits % sign ≤ infinityRank then signed (sign ≤ bits) ⟨bits % sign, h⟩ else nan

def viaFloat (f : Float → Float) (x : Binary64) : Binary64 := ofFloat (f x.toFloat)

def viaFloat₂ (f : Float → Float → Float) (x y : Binary64) : Binary64 :=
  ofFloat (f x.toFloat y.toFloat)

/-- The number nearest to the ratio of the circumference of a circle to its
diameter. -/
def pi : Binary64 := 3.141592653589793

/-- The number nearest to the base of the natural logarithm. -/
def exponential : Binary64 := 2.718281828459045

def goldenRatio : Binary64 := 1.618033988749895

def logTwo : Binary64 := 0.6931471805599453

def logTen : Binary64 := 2.302585092994046

def greatest : Binary64 := 1.7976931348623157e308

/-- The least positive number with all its digits. -/
def leastNormal : Binary64 := 2.2250738585072014e-308

def sin : Binary64 → Binary64 := viaFloat Float.sin
def cos : Binary64 → Binary64 := viaFloat Float.cos
def tan : Binary64 → Binary64 := viaFloat Float.tan
def asin : Binary64 → Binary64 := viaFloat Float.asin
def acos : Binary64 → Binary64 := viaFloat Float.acos
def atan : Binary64 → Binary64 := viaFloat Float.atan
def atan2 : Binary64 → Binary64 → Binary64 := viaFloat₂ Float.atan2
def sinh : Binary64 → Binary64 := viaFloat Float.sinh
def cosh : Binary64 → Binary64 := viaFloat Float.cosh
def tanh : Binary64 → Binary64 := viaFloat Float.tanh
def asinh : Binary64 → Binary64 := viaFloat Float.asinh
def acosh : Binary64 → Binary64 := viaFloat Float.acosh
def atanh : Binary64 → Binary64 := viaFloat Float.atanh
def exp : Binary64 → Binary64 := viaFloat Float.exp
def log : Binary64 → Binary64 := viaFloat Float.log
def log2 : Binary64 → Binary64 := viaFloat Float.log2
def log10 : Binary64 → Binary64 := viaFloat Float.log10

/-- The logarithm of one more than a number, without loss for small numbers. -/
def log1p (x : Binary64) : Binary64 :=
  let shifted := 1 + x
  if shifted.eq 1 then x
  else if shifted.isFinite then log shifted * (x / (shifted - 1))
  else log shifted

/-- The length of the vector with the given finite coordinates. The root is
taken on a scale so fine that an inexact one may stand in the middle of its
step. -/
def hypot (x y : Binary64) : Binary64 :=
  let scale := Nat.pow 2 60
  let square := (x.scaled * x.scaled + y.scaled * y.scaled).toNat * (scale * scale)
  let root := sqrt.integerRoot square
  if root * root = square then signed false (Magnitude.ofUnits root scale)
  else signed false (Magnitude.ofUnits (2 * root + 1) (2 * scale))

def isOddIntegral (x : Binary64) : Bool := x.isIntegral && x.truncate % 2 == 1

/-- A power of a nonzero integer, rounded once. Beyond the exponent 1100 every
power of two and of larger bases is infinite, or zero for its reciprocal. -/
def intPower (base exponent : Int) : Binary64 :=
  let negative := decide (base < 0) && exponent % 2 == 1
  let size := base.natAbs
  if size = 1 then signed negative (Magnitude.ofRatio 1 1)
  else if 1100 < exponent then infinity negative
  else if exponent < -1100 then zero negative
  else if 0 ≤ exponent then signed negative (Magnitude.ofRatio (Nat.pow size exponent.toNat) 1)
  else signed negative (Magnitude.ofRatio 1 (Nat.pow size (-exponent).toNat))

/-- A power of zero: zero or infinite, with the sign of the zero where the exponent is odd. -/
def zeroPower (negative : Bool) (exponent : Binary64) : Binary64 :=
  let sign := negative && exponent.isOddIntegral
  if exponent.isZero then 1
  else if exponent.isNegative then infinity sign
  else zero sign

/-- A power of finite numbers; `nan` where it is not real. -/
def finitePower (base exponent : Binary64) : Binary64 :=
  if base.isZero then zeroPower base.isNegative exponent
  else if base.isIntegral && exponent.isIntegral then
    intPower base.truncate exponent.truncate
  else viaFloat₂ Float.pow base exponent

def scaleBy (x : Binary64) (exponent : Int) : Binary64 :=
  match x with
  | nan => nan
  | signed negative magnitude =>
    if magnitude.isInfinite then x
    else
      match exponent with
      | .ofNat n => signed negative (Magnitude.ofUnits (magnitude.units * Nat.pow 2 n) 1)
      | .negSucc n => signed negative (Magnitude.ofUnits magnitude.units (Nat.pow 2 (n + 1)))

end Binary64

end Calculator
