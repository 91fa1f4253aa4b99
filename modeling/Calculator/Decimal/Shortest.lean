import Calculator.Decimal.Basic

/-!
# Decimals of a binary64 magnitude

`Decimal.shortest` gives the fewest digits that read back to a magnitude, and of
those the nearest to it. Each count of digits fixes a grid of decimals, and only
the two neighbours of the value on that grid have to be tried. `Decimal.rounded`
gives a fixed number of digits, and `Decimal.roundedAt` a fixed last place.
-/

namespace Calculator

namespace Decimal

/-- The quotient `num / den`, divided by ten to the given power, as a new
quotient. -/
def shiftRatio (num den : Nat) : Int → Nat × Nat
  | .ofNat places => (num, den * Nat.pow 10 places)
  | .negSucc places => (num * Nat.pow 10 (places + 1), den)

/-- The number of decimal digits of a natural number; zero has none. -/
def digitCount (n : Nat) : Nat :=
  if n = 0 then 0 else (Nat.toDigits 10 n).length

/-- The least `k` with `num / den < 10 ^ k`, for a positive quotient: the number
of digits before the point, or, below one, minus the number of zeros behind
it. -/
def pointPosition (num den : Nat) : Int :=
  if den ≤ num then digitCount (num / den)
  else 1 - (digitCount ((den + num - 1) / num - 1) : Int)

def exact (magnitude : Magnitude) : Decimal :=
  ⟨magnitude.units * Nat.pow 5 1074, -1074⟩

/-- A neighbour of the magnitude among the multiples of ten to the given power
that reads back to it, the nearer one if both do. From the middle the even one
counts as nearer. -/
def neighbour? (magnitude : Magnitude) (exponent : Int) : Option Decimal :=
  let ratio := shiftRatio magnitude.units unitsPerOne exponent
  let below := ratio.1 / ratio.2
  let nearest := roundHalfEven ratio.1 ratio.2
  let other := if nearest = below then below + 1 else below
  [Decimal.mk nearest exponent, ⟨other, exponent⟩].find? (·.magnitude = magnitude)

/-- The shortest decimal that reads back to a finite magnitude. Seventeen digits
always suffice; the exact value stands in should they not. -/
def shortest (magnitude : Magnitude) : Decimal :=
  if magnitude.isZero then ⟨0, 0⟩
  else
    let point := pointPosition magnitude.units unitsPerOne
    let found := (List.range 17).findSome? fun count =>
      neighbour? magnitude (point - (count + 1 : Nat))
    (found.getD (exact magnitude)).trim

/-- The decimal nearest to a finite magnitude among the multiples of ten to the
given power; a half goes to the even neighbour. -/
def roundedAt (magnitude : Magnitude) (exponent : Int) : Decimal :=
  let ratio := shiftRatio magnitude.units unitsPerOne exponent
  ⟨roundHalfEven ratio.1 ratio.2, exponent⟩

/-- The decimal of `count` digits nearest to a finite magnitude; a half goes to
the even neighbour. -/
def rounded (magnitude : Magnitude) (count : Nat) : Decimal :=
  if magnitude.isZero then ⟨0, 1 - (count : Int)⟩
  else
    let point := pointPosition magnitude.units unitsPerOne
    let decimal := roundedAt magnitude (point - count)
    if decimal.digits = Nat.pow 10 count then ⟨Nat.pow 10 (count - 1), decimal.exponent + 1⟩
    else decimal

end Decimal

/-- The number nearest to the value rounded to the given number of places behind
the point, or before it if negative. The rounding is exact, a half going to the
even neighbour. Beyond 323 places nothing changes, and 309 or more places before
the point leave zero. -/
def Binary64.roundPlaces (x : Binary64) (places : Int) : Binary64 :=
  match x with
  | .nan => .nan
  | .signed negative magnitude =>
    if magnitude.isInfinite || 323 < places then x
    else if places < -308 then .zero negative
    else .signed negative (Decimal.roundedAt magnitude (-places)).magnitude

end Calculator
