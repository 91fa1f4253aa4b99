import Calculator.Binary64.Elementary
import Calculator.Problem

/-!
# Real functions and their domains

A real function has no value outside its domain, and none where its value
overflows. The two cases are told apart.
-/

namespace Calculator

/-- The value of a real function, or why there is none. -/
abbrev RealResult := Except DomainDetail Binary64

def factorial (n : Nat) : Nat := (List.range n).foldl (fun product k => product * (k + 1)) 1

namespace RealFunction

/-- A function whose infinite values at finite places are poles. -/
def withPoles (f : Binary64 → Binary64) (x : Binary64) : RealResult :=
  let y := f x
  if y.isNaN && !x.isNaN then .error .outsideDomain
  else if y.isInfinite && x.isFinite then .error .outsideDomain
  else .ok y

/-- A function whose infinite values at finite places are overflows. -/
def withOverflow (f : Binary64 → Binary64) (x : Binary64) : RealResult :=
  let y := f x
  if y.isNaN && !x.isNaN then .error .outsideDomain
  else if y.isInfinite && x.isFinite then .error .overflow
  else .ok y

/-- A logarithm of an integer, which may be larger than any binary64 number. -/
def logOfInt (log : Binary64 → Binary64) (n : Int) : RealResult :=
  if n ≤ 0 then .error .outsideDomain
  else
    match Binary64.ofInt? n with
    | some x => withPoles log x
    | none =>
      let exponent := n.toNat.log2 + 1
      let fraction := Binary64.ofRatio false n (Nat.pow 2 exponent)
      .ok (log fraction + log 2 * Binary64.ofInt exponent)

def radians (x : Binary64) : Binary64 := x * (Binary64.pi / 180)

/-- A power where one of the numbers is infinite or `nan`. -/
def unboundedPower (base exponent : Binary64) : Binary64 :=
  if base.isNaN then if exponent.isZero then 1 else base
  else if exponent.isNaN then if base.eq 1 then 1 else exponent
  else if base.isInfinite then
    let odd := exponent.isOddIntegral
    if exponent.isZero then 1
    else if exponent.isNegative then Binary64.zero (odd && base.isNegative)
    else if odd then base
    else base.abs
  else if base.abs.eq 1 then 1
  else if Binary64.lt 1 base.abs == exponent.isNegative then 0
  else Binary64.infinity false

/-- A power. A zero has no negative power, and a negative number no power with a
finite exponent that is not an integer. -/
def power (base exponent : Binary64) : RealResult :=
  if base.isFinite && exponent.isFinite then
    let y := Binary64.finitePower base exponent
    if y.isNaN then .error .outsideDomain
    else if y.isInfinite then
      if base.isZero then .error .outsideDomain else .error .overflow
    else .ok y
  else .ok (unboundedPower base exponent)

def gammaShift : Binary64 := 6.024680040776729583740234375

/-- The coefficients of the gamma approximation, numerators with denominators,
constant terms first. -/
def gammaCoefficients : List (Binary64 × Binary64) :=
  [(23531376880.410759688572007674451636754734846804940, 0),
    (42919803642.649098768957899047001988850926355848959, 39916800),
    (35711959237.355668049440185451547166705960488635843, 120543840),
    (17921034426.037209699919755754458931112671403265390, 150917976),
    (6039542586.3520280050642916443072979210699388420708, 105258076),
    (1439720407.3117216736632230727949123939715485786372, 45995730),
    (248874557.86205415651146038641322942321632125127801, 13339535),
    (31426415.585400194380614231628318205362874684987640, 2637558),
    (2876370.6289353724412254090516208496135991145378768, 357423),
    (186056.26539522349504029498971604569928220784236328, 32670),
    (8071.6720023658162106380029022722506138218516325024, 1925),
    (210.82427775157934587250973392071336271166969580291, 66),
    (2.5066282746310002701649081771338373386264310793408, 1)]

/-- The rational part of the gamma approximation, evaluated from the end that
keeps its terms small. -/
def gammaSum (x : Binary64) : Binary64 :=
  let sums :=
    if x.lt 5 then
      gammaCoefficients.foldr (fun term sums => (sums.1 * x + term.1, sums.2 * x + term.2)) (0, 0)
    else
      gammaCoefficients.foldl (fun sums term => (sums.1 / x + term.1, sums.2 / x + term.2)) (0, 0)
  sums.1 / sums.2

/-- The sine of a multiple of a half turn, for finite arguments. -/
def sinPi (x : Binary64) : Binary64 :=
  let y := x.abs.remainder 2
  let quarter := (2 * y + 0.5).floor
  let value :=
    if quarter = 0 then (Binary64.pi * y).sin
    else if quarter = 1 then (Binary64.pi * (y - 0.5)).cos
    else if quarter = 2 then (Binary64.pi * (1 - y)).sin
    else if quarter = 3 then -(Binary64.pi * (y - 1.5)).cos
    else (Binary64.pi * (y - 2)).sin
  (1 : Binary64).withSignOf x * value

/-- The gamma function by its approximation, for arguments of moderate size. -/
def gammaByApproximation (x : Binary64) : Binary64 :=
  let size := x.abs
  let half := gammaShift - 0.5
  let y := size + half
  let loss := if half.lt size then (y - size) - half else (y - half) - size
  let correction := loss * gammaShift / y
  let moderate := size.lt 140
  let whole := Binary64.finitePower y (size - 0.5)
  let root := Binary64.finitePower y (size / 2 - 0.25)
  if x.isNegative then
    let r := -Binary64.pi / sinPi size / size * y.exp / gammaSum size
    let r := r - correction * r
    if moderate then r / whole else r / root / root
  else
    let r := gammaSum size / y.exp
    let r := r + correction * r
    if moderate then r * whole else r * root * root

/-- The gamma function. It has poles at zero and the negative integers. -/
def gamma (x : Binary64) : RealResult :=
  if !x.isFinite then
    if x.isNaN || !x.isNegative then .ok x else .error .outsideDomain
  else if x.isZero || (x.isIntegral && x.isNegative) then .error .outsideDomain
  else if x.isIntegral && x.le 23 then
    .ok (Binary64.ofInt (factorial (x.truncate.toNat - 1)))
  else if x.abs.lt 1e-20 then
    let y := 1 / x
    if y.isInfinite then .error .overflow else .ok y
  else if Binary64.lt 200 x.abs then
    if x.isNegative then .ok (0 / sinPi x) else .error .overflow
  else
    let y := gammaByApproximation x
    if y.isInfinite then .error .overflow else .ok y

end RealFunction

end Calculator
