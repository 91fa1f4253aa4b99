import Calculator.Binary64.Elementary
import Calculator.Decimal.Layout

/-!
# Complex numbers

Complex numbers with binary64 parts: rectangular arithmetic by the plain
formulas, division scaled by the larger part of the divisor, absolute value,
angle, and how they are shown.
-/

namespace Calculator

structure ComplexNumber where
  re : Binary64
  im : Binary64
deriving DecidableEq

namespace ComplexNumber

def ofReal (x : Binary64) : ComplexNumber := ⟨x, 0⟩

def unit : ComplexNumber := ⟨0, 1⟩

def add (z w : ComplexNumber) : ComplexNumber := ⟨z.re + w.re, z.im + w.im⟩
def sub (z w : ComplexNumber) : ComplexNumber := ⟨z.re - w.re, z.im - w.im⟩
def neg (z : ComplexNumber) : ComplexNumber := ⟨-z.re, -z.im⟩

def mul (z w : ComplexNumber) : ComplexNumber :=
  ⟨z.re * w.re - z.im * w.im, z.re * w.im + z.im * w.re⟩

instance : Add ComplexNumber := ⟨add⟩
instance : Sub ComplexNumber := ⟨sub⟩
instance : Neg ComplexNumber := ⟨neg⟩
instance : Mul ComplexNumber := ⟨mul⟩

def conj (z : ComplexNumber) : ComplexNumber := ⟨z.re, -z.im⟩

def eq (z w : ComplexNumber) : Bool := z.re.eq w.re && z.im.eq w.im

def isFinite (z : ComplexNumber) : Bool := z.re.isFinite && z.im.isFinite

/-- The quotient; there is none by zero. -/
def div? (z w : ComplexNumber) : Option ComplexNumber :=
  if w.im.abs.le w.re.abs then
    if w.re.isZero then none
    else
      let ratio := w.im / w.re
      let divisor := w.re + w.im * ratio
      some ⟨(z.re + z.im * ratio) / divisor, (z.im - z.re * ratio) / divisor⟩
  else if w.re.abs.le w.im.abs then
    let ratio := w.re / w.im
    let divisor := w.re * ratio + w.im
    some ⟨(z.re * ratio + z.im) / divisor, (z.im * ratio - z.re) / divisor⟩
  else some ⟨.nan, .nan⟩

/-- The absolute value, infinite if either part is. -/
def length (z : ComplexNumber) : Binary64 :=
  if z.isFinite then Binary64.hypot z.re z.im
  else if z.re.isInfinite || z.im.isInfinite then Binary64.infinity false
  else .nan

/-- The angle from the positive real axis. -/
def phase (z : ComplexNumber) : Binary64 := Binary64.atan2 z.im z.re

/-- How a complex number is shown: an imaginary part alone if the real part is a
positive zero, else both parts in brackets. -/
def text (z : ComplexNumber) : String :=
  let imaginary := z.im.textIn Layout.bare ++ "j"
  if z.re.isZero && !z.re.isNegative then imaginary
  else
    let sign := if z.im.isNegative then "" else "+"
    "(" ++ z.re.textIn Layout.bare ++ sign ++ imaginary ++ ")"

end ComplexNumber

end Calculator
