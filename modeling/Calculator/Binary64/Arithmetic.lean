import Calculator.Binary64.Rounding

/-!
# Arithmetic of binary64 numbers

Each operation computes the exact result and rounds once. Infinite operands,
`nan` and the signs of zero follow the usual rules of binary floating point.
-/

namespace Calculator

namespace Binary64

/-- The rounded sum. -/
def add : Binary64 → Binary64 → Binary64
  | nan, _ => nan
  | _, nan => nan
  | signed s a, signed t b =>
    if a.isInfinite then
      if b.isInfinite && s != t then nan else signed s a
    else if b.isInfinite then signed t b
    else ofUnits (s && t) ((signed s a).scaled + (signed t b).scaled)

def sub (x y : Binary64) : Binary64 := add x (neg y)

def mul : Binary64 → Binary64 → Binary64
  | nan, _ => nan
  | _, nan => nan
  | signed s a, signed t b =>
    if a.isInfinite || b.isInfinite then
      if a.isZero || b.isZero then nan else infinity (s != t)
    else signed (s != t) (Magnitude.ofUnits (a.units * b.units) unitsPerOne)

/-- The rounded quotient; a finite number over zero is infinite. -/
def div : Binary64 → Binary64 → Binary64
  | nan, _ => nan
  | _, nan => nan
  | signed s a, signed t b =>
    if a.isInfinite then
      if b.isInfinite then nan else infinity (s != t)
    else if b.isInfinite then zero (s != t)
    else if b.isZero then
      if a.isZero then nan else infinity (s != t)
    else signed (s != t) (Magnitude.ofRatio a.units b.units)

/-- The rounded square root. With the scale this fine no boundary between two
roundings lies strictly inside a step of the integer root, so an inexact root
may be taken in the middle of its step. -/
def sqrt : Binary64 → Binary64
  | nan => nan
  | signed negative magnitude =>
    if magnitude.isZero then signed negative magnitude
    else if negative then nan
    else if magnitude.isInfinite then signed false magnitude
    else
      let square := magnitude.units * unitsPerOne
      let root := integerRoot square
      if root * root = square then signed false (Magnitude.ofUnits root 1)
      else signed false (Magnitude.ofUnits (2 * root + 1) 2)
where
  /-- The integer part of a square root, one bit of the root at a time. -/
  integerRoot (n : Nat) : Nat :=
    (List.range (n.log2 / 2 + 1)).foldr (fun bit root =>
      let next := root + Nat.pow 2 bit
      if next * next ≤ n then next else root) 0

instance : Add Binary64 := ⟨add⟩
instance : Sub Binary64 := ⟨sub⟩
instance : Mul Binary64 := ⟨mul⟩
instance : Div Binary64 := ⟨div⟩

def floor (x : Binary64) : Int := x.scaled.fdiv unitsPerOne

def ceil (x : Binary64) : Int := -((-x.scaled).fdiv unitsPerOne)

def truncate (x : Binary64) : Int := x.scaled.tdiv unitsPerOne

/-- The integer nearest to a finite number; a half goes to the even neighbour. -/
def round (x : Binary64) : Int := roundHalfEvenInt x.scaled unitsPerOne

/-- Whether a number is finite and has no fractional part. -/
def isIntegral (x : Binary64) : Bool :=
  x.isFinite && x.scaled % unitsPerOne == 0

/-- The remainder of the division that truncates, which is always exact and
has the sign of the dividend. -/
def remainder : Binary64 → Binary64 → Binary64
  | nan, _ => nan
  | _, nan => nan
  | signed s a, signed _ b =>
    if a.isInfinite || b.isZero then nan
    else if b.isInfinite then signed s a
    else signed s (Magnitude.ofUnits (a.units % b.units) 1)

/-- The remainder with the sign of the divisor, also when it is zero. -/
def floorMod (x y : Binary64) : Binary64 :=
  let rest := remainder x y
  if rest.isZero then rest.withSignOf y
  else if y.isNegative == rest.isNegative || rest.isNaN then rest
  else rest + y

/-- The quotient that goes with `floorMod`, brought to an integer. A zero takes
the sign of the true quotient. -/
def floorDiv (x y : Binary64) : Binary64 :=
  let rest := remainder x y
  let exact := (x - rest) / y
  let quotient :=
    if rest.isZero || rest.isNaN || y.isNegative == rest.isNegative then exact
    else exact - ofInt 1
  if quotient.isZero then (zero false).withSignOf (x / y)
  else if quotient.isFinite then
    let below := ofInt quotient.floor
    if lt (ofRatio false 1 2) (quotient - below) then below + ofInt 1 else below
  else quotient

/-- How a finite or infinite number compares with an integer, exactly; `nan`
compares with nothing. -/
def compareInt? (x : Binary64) (n : Int) : Option Ordering :=
  match x with
  | nan => none
  | signed negative magnitude =>
    if magnitude.isInfinite then some (if negative then .lt else .gt)
    else some (compare (signed negative magnitude).scaled (n * unitsPerOne))

end Binary64

end Calculator
