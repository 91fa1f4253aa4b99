import Calculator.ComplexNumber.Power
import Calculator.Elementary.Real

/-!
# Complex functions and their domains

The elementary functions on the complex plane, on their principal branches. The
sign of a zero part tells the two sides of a branch cut apart. Points with an
infinite or `nan` part have limits of their own, stated case by case.
-/

namespace Calculator

/-- The value of a complex function, or why there is none. -/
abbrev ComplexResult := Except DomainDetail ComplexNumber

namespace ComplexFunction

open Binary64

/-- Above this size sums of squares are taken of halved parts. -/
def large : Binary64 := greatest / 4

/-- The logarithm of `large`: from here on exponentials may overflow. -/
def logLarge : Binary64 := large.log

/-- The square roots of the largest and the smallest sizes. -/
def sqrtLarge : Binary64 := large.sqrt
def sqrtLeast : Binary64 := leastNormal.sqrt

def quarterTurn : Binary64 := pi * 0.5

def infinityOf (sign : Binary64) : Binary64 := (infinity false).withSignOf sign

def zeroOf (sign : Binary64) : Binary64 := (zero false).withSignOf sign

/-- Turns a function of `i z` into one of `z`. -/
def timesUnit (z : ComplexNumber) : ComplexNumber := ⟨-z.im, z.re⟩

/-- Undoes `timesUnit`. -/
def overUnit (z : ComplexNumber) : ComplexNumber := ⟨z.im, -z.re⟩

/-- Refuses an infinite part as an overflow. -/
def bounded (z : ComplexNumber) : ComplexResult :=
  if z.re.isInfinite || z.im.isInfinite then .error .overflow else .ok z

/-! ### Roots and logarithms -/

/-- The square root at a point that is not finite. -/
def sqrtLimit (z : ComplexNumber) : ComplexNumber :=
  if z.im.isInfinite then ⟨infinity false, z.im⟩
  else if z.re.isInfinite then
    if z.re.isNegative then
      if z.im.isNaN then ⟨nan, infinity false⟩ else ⟨0, infinityOf z.im⟩
    else if z.im.isNaN then ⟨infinity false, nan⟩
    else ⟨infinity false, zeroOf z.im⟩
  else ⟨nan, nan⟩

/-- The square root with nonnegative real part. -/
def sqrt (z : ComplexNumber) : ComplexNumber :=
  if !z.isFinite then sqrtLimit z
  else if z.re.isZero && z.im.isZero then ⟨0, z.im⟩
  else
    let x := z.re.abs
    let y := z.im.abs
    let root :=
      if x.lt leastNormal && y.lt leastNormal then
        ((x.scaleBy 53 + hypot (x.scaleBy 53) (y.scaleBy 53)).sqrt).scaleBy (-27)
      else 2 * (x / 8 + hypot (x / 8) (y / 8)).sqrt
    let other := y / (2 * root)
    if le 0 z.re then ⟨root, other.withSignOf z.im⟩ else ⟨other, root.withSignOf z.im⟩

/-- The logarithm of the absolute value of a finite number. -/
def logLength (z : ComplexNumber) : Binary64 :=
  let x := z.re.abs
  let y := z.im.abs
  if large.lt x || large.lt y then (hypot (x / 2) (y / 2)).log + logTwo
  else if x.lt leastNormal && y.lt leastNormal then
    if x.isZero && y.isZero then infinity true
    else (hypot (x.scaleBy 53) (y.scaleBy 53)).log - 53 * logTwo
  else
    let length := hypot x y
    if le 0.71 length && length.le 1.73 then
      let (greater, lesser) := if y.lt x then (x, y) else (y, x)
      log1p ((greater - 1) * (greater + 1) + lesser * lesser) / 2
    else length.log

/-- The logarithm with its limit at zero. -/
def logValue (z : ComplexNumber) : ComplexNumber :=
  let length :=
    if z.isFinite then logLength z
    else if z.re.isInfinite || z.im.isInfinite then infinity false
    else nan
  ⟨length, z.phase⟩

/-- The natural logarithm; zero has none. -/
def log (z : ComplexNumber) : ComplexResult :=
  if z.re.isZero && z.im.isZero then .error .outsideDomain else .ok (logValue z)

/-- The logarithm to a base, which must be neither zero nor one. -/
def logBase (z base : ComplexNumber) : ComplexResult := do
  let divisor ← log base
  match (logValue z).div? divisor with
  | some result => .ok result
  | none => .error .outsideDomain

def log10 (z : ComplexNumber) : ComplexResult :=
  (log z).map fun w => ⟨w.re / logTen, w.im / logTen⟩

/-- The phase. Where that of a number off the real axis is too small to be told
from zero, it is out of range. -/
def phase (z : ComplexNumber) : RealResult :=
  if z.phase.isZero && !z.im.isZero && z.re.isFinite then .error .overflow else .ok z.phase

/-! ### Exponential and hyperbolic functions -/

def expLimit (z : ComplexNumber) : ComplexResult :=
  let x := z.re
  let y := z.im
  if y.isInfinite && (x.isFinite || (x.isInfinite && !x.isNegative)) then .error .outsideDomain
  else if x.isInfinite then
    if !y.isFinite then .ok (if x.isNegative then ⟨0, 0⟩ else ⟨infinity false, nan⟩)
    else if y.isZero then .ok ⟨if x.isNegative then 0 else infinity false, y⟩
    else if x.isNegative then .ok ⟨zeroOf y.cos, zeroOf y.sin⟩
    else .ok ⟨infinityOf y.cos, infinityOf y.sin⟩
  else if x.isNaN && y.isZero then .ok ⟨nan, y⟩
  else .ok ⟨nan, nan⟩

def exp (z : ComplexNumber) : ComplexResult :=
  if !z.isFinite then expLimit z
  else if logLarge.lt z.re then
    let length := (z.re - 1).exp
    bounded ⟨length * z.im.cos * exponential, length * z.im.sin * exponential⟩
  else
    let length := z.re.exp
    bounded ⟨length * z.im.cos, length * z.im.sin⟩

def sinhLimit (z : ComplexNumber) : ComplexResult :=
  let x := z.re
  let y := z.im
  if y.isInfinite then if x.isNaN then .ok ⟨nan, nan⟩ else .error .outsideDomain
  else if y.isNaN then
    .ok ⟨if x.isInfinite then infinity false else if x.isZero then 0 else nan, nan⟩
  else if y.isZero then .ok ⟨x, y⟩
  else if x.isNaN then .ok ⟨nan, nan⟩
  else
    let real := infinityOf y.cos
    .ok ⟨if x.isNegative then -real else real, infinityOf y.sin⟩

def sinh (z : ComplexNumber) : ComplexResult :=
  if !z.isFinite then sinhLimit z
  else if logLarge.lt z.re.abs then
    let x := z.re - (1 : Binary64).withSignOf z.re
    bounded ⟨z.im.cos * x.sinh * exponential, z.im.sin * x.cosh * exponential⟩
  else bounded ⟨z.im.cos * z.re.sinh, z.im.sin * z.re.cosh⟩

def coshLimit (z : ComplexNumber) : ComplexResult :=
  let x := z.re
  let y := z.im
  if y.isInfinite then if x.isNaN then .ok ⟨nan, nan⟩ else .error .outsideDomain
  else if y.isNaN then
    .ok (if x.isInfinite then ⟨infinity false, nan⟩
      else if x.isZero then ⟨nan, 0⟩
      else ⟨nan, nan⟩)
  else if y.isZero then
    .ok (if x.isNaN then ⟨nan, 0⟩
      else ⟨infinity false, if x.isNegative then -y else y⟩)
  else if x.isNaN then .ok ⟨nan, nan⟩
  else
    let imaginary := infinityOf y.sin
    .ok ⟨infinityOf y.cos, if x.isNegative then -imaginary else imaginary⟩

def cosh (z : ComplexNumber) : ComplexResult :=
  if !z.isFinite then coshLimit z
  else if logLarge.lt z.re.abs then
    let x := z.re - (1 : Binary64).withSignOf z.re
    bounded ⟨z.im.cos * x.cosh * exponential, z.im.sin * x.sinh * exponential⟩
  else bounded ⟨z.im.cos * z.re.cosh, z.im.sin * z.re.sinh⟩

def tanhLimit (z : ComplexNumber) : ComplexResult :=
  let x := z.re
  let y := z.im
  if y.isInfinite && x.isFinite then .error .outsideDomain
  else if x.isInfinite then
    let real := (1 : Binary64).withSignOf x
    if !y.isFinite then .ok ⟨real, 0⟩
    else if y.isZero then .ok ⟨real, y⟩
    else .ok ⟨real, zeroOf (2 * y.sin * y.cos)⟩
  else if x.isNaN && y.isZero then .ok ⟨nan, y⟩
  else .ok ⟨nan, nan⟩

def tanh (z : ComplexNumber) : ComplexResult :=
  if !z.isFinite then tanhLimit z
  else if logLarge.lt z.re.abs then
    .ok ⟨(1 : Binary64).withSignOf z.re,
      4 * z.im.sin * z.im.cos * (-2 * z.re.abs).exp⟩
  else
    let tx := z.re.tanh
    let ty := z.im.tan
    let cx := 1 / z.re.cosh
    let product := tx * ty
    let divisor := 1 + product * product
    .ok ⟨tx * (1 + ty * ty) / divisor, ((ty / divisor) * cx) * cx⟩

/-! ### Inverse functions -/

/-- The logarithm of twice the absolute value, for large numbers. -/
def logTwice (z : ComplexNumber) : Binary64 :=
  (hypot (z.re / 2) (z.im / 2)).log + logTwo * 2

/-- Whether a number is too large for the ordinary formulas. -/
def isLarge (z : ComplexNumber) : Bool := large.lt z.re.abs || large.lt z.im.abs

def acosLimit (z : ComplexNumber) : ComplexNumber :=
  let x := z.re
  let y := z.im
  if y.isNaN then
    if x.isInfinite then ⟨nan, infinity false⟩
    else if x.isZero then ⟨quarterTurn, nan⟩
    else ⟨nan, nan⟩
  else if x.isNaN then ⟨nan, if y.isInfinite then -y else nan⟩
  else ⟨atan2 y.abs x, -(infinityOf y)⟩

def acos (z : ComplexNumber) : ComplexNumber :=
  if !z.isFinite then acosLimit z
  else if isLarge z then ⟨atan2 z.im.abs z.re, -((logTwice z).withSignOf z.im)⟩
  else
    let s := sqrt ⟨1 - z.re, -z.im⟩
    let t := sqrt ⟨1 + z.re, z.im⟩
    ⟨2 * atan2 s.re t.re, (t.re * s.im - t.im * s.re).asinh⟩

/-- The inverse hyperbolic cosine at a point that is not finite. -/
def acoshLimit (z : ComplexNumber) : ComplexNumber :=
  let x := z.re
  let y := z.im
  if y.isNaN then
    ⟨if x.isInfinite then infinity false else nan, nan⟩
  else if x.isNaN then ⟨if y.isInfinite then infinity false else nan, nan⟩
  else ⟨infinity false, atan2 y x⟩

def acosh (z : ComplexNumber) : ComplexNumber :=
  if !z.isFinite then acoshLimit z
  else if isLarge z then ⟨logTwice z, atan2 z.im z.re⟩
  else
    let s := sqrt ⟨z.re - 1, z.im⟩
    let t := sqrt ⟨z.re + 1, z.im⟩
    ⟨(s.re * t.re + s.im * t.im).asinh, 2 * atan2 s.im t.re⟩

/-- The inverse hyperbolic sine at a point that is not finite. -/
def asinhLimit (z : ComplexNumber) : ComplexNumber :=
  let x := z.re
  let y := z.im
  if y.isNaN then ⟨if x.isInfinite then x else nan, nan⟩
  else if x.isNaN then
    if y.isInfinite then ⟨infinity false, nan⟩
    else ⟨nan, if y.isZero then y else nan⟩
  else ⟨infinityOf x, atan2 y x.abs⟩

def asinh (z : ComplexNumber) : ComplexNumber :=
  if !z.isFinite then asinhLimit z
  else if isLarge z then ⟨(logTwice z).withSignOf z.re, atan2 z.im z.re.abs⟩
  else
    let s := sqrt ⟨1 + z.im, -z.re⟩
    let t := sqrt ⟨1 - z.im, z.re⟩
    ⟨(s.re * t.im - t.re * s.im).asinh, atan2 z.im (s.re * t.re - s.im * t.im)⟩

/-- The inverse hyperbolic tangent at a point that is not finite. -/
def atanhLimit (z : ComplexNumber) : ComplexNumber :=
  let x := z.re
  let y := z.im
  if y.isNaN then
    if x.isInfinite || x.isZero then ⟨zeroOf x, nan⟩ else ⟨nan, nan⟩
  else if x.isNaN then
    if y.isInfinite then ⟨0, quarterTurn.withSignOf y⟩ else ⟨nan, nan⟩
  else ⟨zeroOf x, quarterTurn.withSignOf y⟩

/-- The inverse hyperbolic tangent of a finite number with positive real part or
a real part that is a positive zero. -/
def atanhRight (z : ComplexNumber) : ComplexResult :=
  let y := z.im.abs
  if sqrtLarge.lt z.re || sqrtLarge.lt y then
    let half := hypot (z.re / 2) (z.im / 2)
    .ok ⟨z.re / 4 / half / half, quarterTurn.withSignOf z.im⟩
  else if z.re.eq 1 && y.lt sqrtLeast then
    if y.isZero then .error .outsideDomain
    else
      .ok ⟨-((y.sqrt / (hypot y 2).sqrt).log), (atan2 2 (-y) / 2).withSignOf z.im⟩
  else
    let rest := 1 - z.re
    .ok ⟨log1p (4 * z.re / (rest * rest + y * y)) / 4,
      -(atan2 (-2 * z.im) (rest * (1 + z.re) - y * y)) / 2⟩

def atanh (z : ComplexNumber) : ComplexResult :=
  if !z.isFinite then .ok (atanhLimit z)
  else if z.re.isNegative then (atanhRight (-z)).map ComplexNumber.neg
  else atanhRight z

/-! ### Circular functions -/

def sin (z : ComplexNumber) : ComplexResult := (sinh (timesUnit z)).map overUnit
def cos (z : ComplexNumber) : ComplexResult := cosh (timesUnit z)
def tan (z : ComplexNumber) : ComplexResult := (tanh (timesUnit z)).map overUnit
def asin (z : ComplexNumber) : ComplexNumber := overUnit (asinh (timesUnit z))
def atan (z : ComplexNumber) : ComplexResult := (atanh (timesUnit z)).map overUnit

end ComplexFunction

end Calculator
