import Calculator.Proofs.Binary64.Nearest
import Calculator.Proofs.Decimal.Reading
import Calculator.Token.Numeral

/-!
# Decimals go to the nearest magnitude

A decimal numeral denotes a rational number (`Numeral.denoted`), and its magnitude is the one
nearest to it (`Numeral.isNearest_decimalValue`), whatever the number of digits and the
exponent.
-/

namespace Calculator

namespace Decimal

/-- The value of a decimal. -/
def value (decimal : Decimal) : ℚ := decimal.digits * 10 ^ decimal.exponent

/-- The magnitude of a decimal is the one nearest to its value. -/
theorem isNearest_magnitude (decimal : Decimal) : decimal.magnitude.IsNearest decimal.value := by
  obtain ⟨digits, exponent⟩ := decimal
  rw [magnitude_eq_ofRatio]
  cases exponent with
  | ofNat places =>
      have same : value ⟨digits, .ofNat places⟩ =
          ((digits * 10 ^ places : Nat) : ℚ) / (1 : Nat) := by
        simp [value]
      rw [same]
      exact Magnitude.isNearest_ofRatio _ Nat.one_pos
  | negSucc places =>
      have same : value ⟨digits, .negSucc places⟩ =
          (digits : ℚ) / ((10 ^ (places + 1) : Nat) : ℚ) := by
        simp [value, zpow_negSucc, div_eq_mul_inv]
      rw [same]
      exact Magnitude.isNearest_ofRatio _ (Nat.pow_pos (by decide))

end Decimal

namespace Numeral

/-- The number that a decimal numeral denotes: its digits before and behind the point, shifted by
the exponent. -/
def denoted (whole : List Char) (fraction : Option (List Char)) (exponent : Option Exponent) : ℚ :=
  let places := fraction.getD []
  (Nat.ofDigitChars 10 whole 0 + Nat.ofDigitChars 10 places 0 / 10 ^ places.length) *
    10 ^ exponent.elim 0 Exponent.value

theorem denoted_nonneg (whole : List Char) (fraction : Option (List Char))
    (exponent : Option Exponent) : 0 ≤ denoted whole fraction exponent := by
  unfold denoted
  positivity

theorem denoted_eq_value (whole : List Char) (fraction : Option (List Char))
    (exponent : Option Exponent) :
    denoted whole fraction exponent = (decimalValue whole fraction exponent).value := by
  have ten : (10 : ℚ) ≠ 0 := by norm_num
  unfold denoted decimalValue Decimal.value
  simp only
  have shifted := @Nat.ofDigitChars_eq_ofDigitChars_zero (fraction.getD [])
    (Nat.ofDigitChars 10 whole 0)
  rw [Nat.ofDigitChars_append, shifted, zpow_sub₀ ten, zpow_natCast]
  push_cast
  field_simp

/-- The magnitude of a decimal numeral is the one nearest to the number that it denotes. -/
theorem isNearest_decimalValue (whole : List Char) (fraction : Option (List Char))
    (exponent : Option Exponent) :
    (decimalValue whole fraction exponent).magnitude.IsNearest (denoted whole fraction exponent) :=
  denoted_eq_value whole fraction exponent ▸ Decimal.isNearest_magnitude _

/-- Digits alone denote the natural number that they spell. -/
theorem denoted_digits (whole : List Char) :
    denoted whole none none = (Nat.ofDigitChars 10 whole 0 : Nat) := by
  simp [denoted]

end Numeral

end Calculator
