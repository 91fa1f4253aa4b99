import Calculator.Binary64.Rounding

/-!
# Decimals

A decimal is a natural number of digits shifted by a power of ten. Reading one
gives the nearest binary64 magnitude, whatever the number of digits and however
far the shift goes.
-/

namespace Calculator

/-- The value `digits * 10 ^ exponent`. -/
structure Decimal where
  digits : Nat
  exponent : Int
deriving DecidableEq

namespace Decimal

/-- The magnitude nearest to a decimal.

A shift by 400 places or more makes every nonzero decimal infinite. A negative
shift that outweighs the digits, counted in bits, leaves less than half of the
smallest positive value. -/
def magnitude (decimal : Decimal) : Magnitude :=
  if decimal.digits = 0 then Magnitude.zero
  else
    match decimal.exponent with
    | .ofNat places =>
      if 400 ≤ places then Magnitude.infinity
      else Magnitude.ofRatio (decimal.digits * Nat.pow 10 places) 1
    | .negSucc places =>
      if decimal.digits.log2 + 1100 < 3 * (places + 1) then Magnitude.zero
      else Magnitude.ofRatio decimal.digits (Nat.pow 10 (places + 1))

/-- The nonnegative number nearest to a decimal. -/
def toBinary64 (decimal : Decimal) : Binary64 :=
  Binary64.signed false decimal.magnitude

/-- The same value without zeros at the end of its digits. -/
def trim (decimal : Decimal) : Decimal :=
  if 0 < decimal.digits ∧ decimal.digits % 10 = 0 then
    trim ⟨decimal.digits / 10, decimal.exponent + 1⟩
  else decimal
termination_by decimal.digits
decreasing_by exact Nat.div_lt_self (by omega) (by omega)

def leadingExponent (decimal : Decimal) : Int :=
  decimal.exponent + (Nat.toDigits 10 decimal.digits).length - 1

end Decimal

instance : OfScientific Binary64 where
  ofScientific digits negativeExponent exponent :=
    (Decimal.mk digits (if negativeExponent then -(exponent : Int) else exponent)).toBinary64

instance (n : Nat) : OfNat Binary64 n := ⟨Binary64.ofInt n⟩

end Calculator
