import Calculator.ComplexNumber.Power
import Calculator.Elementary.Real
import Calculator.Template.Fill
import Calculator.Value.Basic

/-!
# Arithmetic of values

Integers stay exact as long as both operands are integers; with a binary64
number the result is one, and with a complex number it is complex. Texts and
lists can be joined and repeated.
-/

namespace Calculator

namespace Value

/-- An operation on two numbers, by the widest kind among them. -/
def withScalars (ints : Int → Int → Except Fault Value)
    (floats : Binary64 → Binary64 → Except Fault Value)
    (complexes : ComplexNumber → ComplexNumber → Except Fault Value) :
    Scalar → Scalar → Except Fault Value
  | .int m, .int n => ints m n
  | .complex z, other => do complexes z (← other.toComplex)
  | other, .complex w => do complexes (← other.toComplex) w
  | x, y => do floats (← x.toBinary64) (← y.toBinary64)

/-- The sum of numbers, or two texts or lists joined. -/
def add (x y : Value) : Except Fault Value :=
  match x.scalar?, y.scalar? with
  | some a, some b =>
    withScalars (fun m n => .ok (int (m + n))) (fun u v => .ok (float (u + v)))
      (fun z w => .ok (complex (z + w))) a b
  | _, _ =>
    match x, y with
    | text s, text t => .ok (text (s ++ t))
    | _, _ =>
      match x.items?, y.items? with
      | some xs, some ys => .ok (list (xs ++ ys))
      | _, _ => .error .refused

def sub (x y : Value) : Except Fault Value :=
  match x.scalar?, y.scalar? with
  | some a, some b =>
    withScalars (fun m n => .ok (int (m - n))) (fun u v => .ok (float (u - v)))
      (fun z w => .ok (complex (z - w))) a b
  | _, _ => .error .refused

/-- The largest count of anything. -/
def largestCount : Int := 0x7FFFFFFFFFFFFFFF

/-- A text or a list repeated. A count that exceeds a machine word is outside the
domain, and so is a text whose length would; a list cannot become as long. -/
def repeated (value : Value) (count : Int) : Except Fault Value :=
  if count < -largestCount - 1 ∨ largestCount < count then .error .undetailed
  else
    match value with
    | text s =>
      if s.isEmpty ∨ count ≤ 0 then .ok (text "")
      else if largestCount < s.length * count then .error .undetailed
      else if Template.longest < s.length * count then .error (.broken .memory)
      else .ok (text (String.join (List.replicate count.toNat s)))
    | value =>
      match value.items? with
      | some items =>
        if items.isEmpty ∨ count ≤ 0 then .ok (list [])
        else if Template.longest < items.length * count then .error (.broken .memory)
        else .ok (list (List.replicate count.toNat items).flatten)
      | none => .error .refused

/-- The product of numbers, or a text or list repeated. -/
def mul (x y : Value) : Except Fault Value :=
  match x.scalar?, y.scalar? with
  | some a, some b =>
    withScalars (fun m n => .ok (int (m * n))) (fun u v => .ok (float (u * v)))
      (fun z w => .ok (complex (z * w))) a b
  | none, some (.int n) => repeated x n
  | some (.int n), none => repeated y n
  | _, _ => .error .refused

/-- The quotient of integers, rounded once. -/
def intQuotient (m n : Int) : Except Fault Value :=
  if n = 0 then .error .divisionByZero
  else
    let negative := decide (m < 0) != decide (n < 0)
    let x := Binary64.signed negative (Magnitude.ofRatio m.natAbs n.natAbs)
    if x.isFinite then .ok (float x) else .error .undetailed

def div (x y : Value) : Except Fault Value :=
  match x.scalar?, y.scalar? with
  | some a, some b =>
    withScalars intQuotient
      (fun u v => if v.isZero then .error .divisionByZero else .ok (float (u / v)))
      (fun z w =>
        match z.div? w with
        | some quotient => .ok (complex quotient)
        | none => .error .divisionByZero) a b
  | _, _ => .error .refused

/-- The greatest integer not above the quotient of real numbers. -/
def floorDiv (x y : Value) : Except Fault Value :=
  match x.scalar?, y.scalar? with
  | some (.complex _), _ => .error .refused
  | _, some (.complex _) => .error .refused
  | some a, some b =>
    withScalars
      (fun m n => if n = 0 then .error .divisionByZero else .ok (int (m.fdiv n)))
      (fun u v => if v.isZero then .error .divisionByZero else .ok (float (u.floorDiv v)))
      (fun _ _ => .error .refused) a b
  | _, _ => .error .refused

/-- The remainder with the sign of the divisor. A text is a template, into which
the other operand is written. -/
def mod (x y : Value) : Except Fault Value :=
  match x with
  | text template => (Template.fill template y).map text
  | x =>
    match x.scalar?, y.scalar? with
    | some (.complex _), _ => .error .refused
    | _, some (.complex _) => .error .refused
    | some a, some b =>
      withScalars
        (fun m n => if n = 0 then .error .divisionByZero else .ok (int (m.fmod n)))
        (fun u v => if v.isZero then .error .divisionByZero else .ok (float (u.floorMod v)))
        (fun _ _ => .error .refused) a b
    | _, _ => .error .refused

/-- A power of binary64 numbers. A negative number has complex powers where the
exponent is not an integer. -/
def floatPower (x y : Binary64) : Except Fault Value :=
  if x.isFinite && y.isFinite then
    if x.isZero && y.lt 0 then .error .divisionByZero
    else if x.lt 0 && !y.isIntegral then
      ((ComplexNumber.ofReal x).power (ComplexNumber.ofReal y)).map complex
    else
      let power := Binary64.finitePower x y
      if power.isInfinite then .error .undetailed else .ok (float power)
  else .ok (float (RealFunction.unboundedPower x y))

/-- A natural power of an integer. The powers of zero and of one, whose exponents
may have any size, are not multiplied out. -/
def naturalPower (m : Int) (n : Nat) : Int :=
  if m.natAbs ≤ 1 then if n = 0 then 1 else if n % 2 = 0 then m * m else m
  else Int.pow m n

/-- A power of integers, exact unless the exponent is negative. -/
def intPower (m n : Int) : Except Fault Value :=
  if 0 ≤ n then .ok (int (naturalPower m n.toNat))
  else do floatPower (← (Scalar.int m).toBinary64) (← (Scalar.int n).toBinary64)

def power (x y : Value) : Except Fault Value :=
  match x.scalar?, y.scalar? with
  | some a, some b =>
    withScalars intPower floatPower (fun z w => (z.power w).map complex) a b
  | _, _ => .error .refused

def neg (x : Value) : Except Fault Value :=
  match x.scalar? with
  | some (.int n) => .ok (int (-n))
  | some (.float u) => .ok (float (-u))
  | some (.complex z) => .ok (complex (-z))
  | none => .error .refused

def abs (x : Value) : Except Fault Value :=
  match x.scalar? with
  | some (.int n) => .ok (int n.natAbs)
  | some (.float u) => .ok (float u.abs)
  | some (.complex z) => z.abs.map float
  | none => .error .refused

/-- An integer made from a finite binary64 number; others have none. -/
def integerOf (f : Binary64 → Int) (x : Binary64) : Except Fault Value :=
  if x.isFinite then .ok (int (f x)) else .error .undetailed

/-- The integer that `f` makes of a real number; integers stay as they are. -/
def integral (f : Binary64 → Int) (x : Value) : Except Fault Value :=
  match x.scalar? with
  | some (.int n) => .ok (int n)
  | some (.float u) => integerOf f u
  | _ => .error .refused

def floor : Value → Except Fault Value := integral Binary64.floor

def ceil : Value → Except Fault Value := integral Binary64.ceil

/-- The integer nearest to a number; a half goes to the even neighbour. -/
def round : Value → Except Fault Value := integral Binary64.round

/-- An integer rounded to tens, hundreds and so on; a half goes to the even
neighbour. -/
def roundInt (n : Int) (zeros : Nat) : Int :=
  if n.natAbs.log2 + 1 < zeros then 0
  else
    let unit := Nat.pow 10 zeros
    roundHalfEvenInt n unit * unit

/-- A real number rounded to places behind the point, or before it if negative. -/
def roundTo (x places : Value) : Except Fault Value :=
  match x.scalar?, places with
  | some (.complex _), _ => .error .refused
  | none, _ => .error .refused
  | some _, nothing => round x
  | some (.int n), places => do
    let places ← places.toInt
    .ok (int (if 0 ≤ places then n else roundInt n (-places).toNat))
  | some (.float u), places => do
    let places ← places.toInt
    let rounded := u.roundPlaces places
    if u.isFinite && rounded.isInfinite then .error .undetailed else .ok (float rounded)

end Value

end Calculator
