import Calculator.Decimal.Shortest
import Calculator.Proofs.Binary64.Rounding

/-!
# Decimals read back

The cut-offs of `Decimal.magnitude` for huge and tiny exponents do not matter: the
magnitude is always the one nearest to the quotient that the decimal stands for
(`Decimal.magnitude_eq_ofRatio`). So zeros may be moved from the digits to the
exponent (`Decimal.magnitude_trim`), and the shortest decimal of a magnitude reads
back to it (`Decimal.magnitude_shortest`).
-/

namespace Calculator

namespace Decimal

open Magnitude

def ratio (decimal : Decimal) : Nat × Nat :=
  match decimal.exponent with
  | .ofNat places => (decimal.digits * 10 ^ places, 1)
  | .negSucc places => (decimal.digits, 10 ^ (places + 1))

theorem two_pow_le_ten_pow (places : Nat) : 2 ^ (3 * places) ≤ 10 ^ places := by
  rw [Nat.pow_mul]
  exact Nat.pow_le_pow_left (by decide) places

theorem ofRatio_zero {den : Nat} (positive : 0 < den) : ofRatio 0 den = Magnitude.zero := by
  unfold ofRatio
  exact ofUnits_eq_zero (by simpa using positive)

-- The exponent is kept as a variable, so that the power is not computed.
theorem exists_unitsPerOne : ∃ shift, shift = 1074 ∧ unitsPerOne = 2 ^ shift := by
  unfold unitsPerOne
  generalize 1074 = shift
  exact ⟨shift, rfl, rfl⟩

/-- A nonzero decimal of more than four hundred digits is infinite. -/
theorem ofRatio_eq_infinity {digits places : Nat} (nonzero : digits ≠ 0) (many : 400 ≤ places) :
    ofRatio (digits * 10 ^ places) 1 = infinity := by
  obtain ⟨shift, size, units⟩ := exists_unitsPerOne
  have power : 2 ^ (3 * places) ≤ digits * 10 ^ places :=
    Nat.le_trans (two_pow_le_ten_pow places)
      (Nat.le_mul_of_pos_left _ (Nat.pos_of_ne_zero nonzero))
  have large : 2 ^ (3 * places + shift) ≤ digits * 10 ^ places * unitsPerOne / 1 := by
    rw [Nat.div_one, units, Nat.pow_add]
    exact Nat.mul_le_mul_right _ power
  exact ofUnits_eq_infinity (by omega) large

/-- A decimal with far more places than its digits make up for is zero. -/
theorem ofRatio_eq_zero {digits places : Nat} (tiny : digits.log2 + 1100 < 3 * (places + 1)) :
    ofRatio digits (10 ^ (places + 1)) = Magnitude.zero := by
  obtain ⟨shift, size, units⟩ := exists_unitsPerOne
  have below : digits < 2 ^ (digits.log2 + 1) := Nat.lt_log2_self
  have scaled : digits * unitsPerOne < 2 ^ (digits.log2 + 1 + shift) := by
    rw [units, Nat.pow_add]
    exact Nat.mul_lt_mul_of_pos_right below (Nat.two_pow_pos shift)
  have power : 2 ^ (digits.log2 + 1 + shift + 1) ≤ 10 ^ (places + 1) :=
    Nat.le_trans (Nat.pow_le_pow_right (by decide) (by omega)) (two_pow_le_ten_pow (places + 1))
  rw [Nat.pow_succ] at power
  unfold ofRatio
  exact ofUnits_eq_zero (by omega)

/-- The magnitude of a decimal is the one nearest to its value. -/
theorem magnitude_eq_ofRatio (decimal : Decimal) :
    decimal.magnitude = ofRatio decimal.ratio.1 decimal.ratio.2 := by
  obtain ⟨digits, exponent⟩ := decimal
  unfold magnitude ratio
  by_cases nonzero : digits = 0
  · subst nonzero
    rw [if_pos rfl]
    cases exponent with
    | ofNat places =>
        simp only [Nat.zero_mul]
        exact (ofRatio_zero Nat.one_pos).symm
    | negSucc places => exact (ofRatio_zero (Nat.pow_pos (by decide))).symm
  · rw [if_neg nonzero]
    cases exponent with
    | ofNat places =>
        simp only
        split
        · rename_i many
          exact (ofRatio_eq_infinity nonzero many).symm
        · rfl
    | negSucc places =>
        simp only
        split
        · rename_i tiny
          exact (ofRatio_eq_zero tiny).symm
        · rfl

theorem magnitude_mul_ten (digits : Nat) (exponent : Int) :
    magnitude ⟨digits * 10, exponent⟩ = magnitude ⟨digits, exponent + 1⟩ := by
  rw [magnitude_eq_ofRatio, magnitude_eq_ofRatio]
  match exponent with
  | .ofNat places =>
      change ofRatio (digits * 10 * 10 ^ places) 1 = ofRatio (digits * 10 ^ (places + 1)) 1
      rw [Nat.pow_succ, Nat.mul_comm (10 ^ places), Nat.mul_assoc]
  | .negSucc 0 =>
      change ofRatio (digits * 10) (10 ^ 1) = ofRatio (digits * 10 ^ 0) 1
      rw [Nat.pow_one, Nat.pow_zero, Nat.mul_one, ← ofRatio_mul (by decide : 0 < 10) digits 1,
        Nat.one_mul]
  | .negSucc (places + 1) =>
      change ofRatio (digits * 10) (10 ^ (places + 1 + 1)) = ofRatio digits (10 ^ (places + 1))
      rw [Nat.pow_succ, ofRatio_mul (by decide)]

/-- Zeros at the end of the digits may be counted in the exponent instead. -/
theorem magnitude_mul_ten_pow (digits places : Nat) (exponent : Int) :
    magnitude ⟨digits * 10 ^ places, exponent⟩ = magnitude ⟨digits, exponent + places⟩ := by
  induction places generalizing exponent with
  | zero => simp
  | succ places ih =>
      rw [Nat.pow_succ, ← Nat.mul_assoc, magnitude_mul_ten, ih]
      have same : exponent + 1 + (places : Int) = exponent + ((places + 1 : Nat) : Int) := by omega
      rw [same]

theorem magnitude_trim (decimal : Decimal) : decimal.trim.magnitude = decimal.magnitude := by
  induction decimal using trim.induct with
  | case1 decimal ends ih =>
      have whole : decimal.digits / 10 * 10 = decimal.digits :=
        Nat.div_mul_cancel (Nat.dvd_of_mod_eq_zero ends.2)
      rw [trim, if_pos ends, ih, ← magnitude_mul_ten, whole]
  | case2 decimal ends => rw [trim, if_neg ends]

theorem magnitude_exact (magnitude : Magnitude) : (exact magnitude).magnitude = magnitude := by
  have scaled : ∀ places, ofUnits (magnitude.units * 5 ^ places * 2 ^ places) (10 ^ places) =
      magnitude := by
    intro places
    have positive : 0 < 10 ^ places := Nat.pow_pos (by decide)
    have split : magnitude.units * 5 ^ places * 2 ^ places = magnitude.units * 10 ^ places := by
      rw [Nat.mul_assoc, ← Nat.mul_pow]
    have common := ofUnits_mul positive magnitude.units 1
    rw [Nat.one_mul] at common
    rw [split, common, ofUnits_units]
  obtain ⟨shift, size, units⟩ := exists_unitsPerOne
  have place : (-1074 : Int) = .negSucc (1074 - 1) := rfl
  rw [magnitude_eq_ofRatio, exact, place, ← size]
  change ofRatio (magnitude.units * 5 ^ shift) (10 ^ (shift - 1 + 1)) = magnitude
  rw [Nat.sub_add_cancel (by omega), ofRatio, units]
  exact scaled shift

theorem magnitude_of_neighbour? {magnitude : Magnitude} {exponent : Int} {decimal : Decimal}
    (near : neighbour? magnitude exponent = some decimal) : decimal.magnitude = magnitude := by
  unfold neighbour? at near
  simpa using List.find?_some near

/-- The shortest decimal of a magnitude reads back to it. -/
theorem magnitude_shortest (magnitude : Magnitude) :
    (shortest magnitude).magnitude = magnitude := by
  unfold shortest
  by_cases none : magnitude.isZero = true
  · rw [if_pos none]
    have rank : magnitude.rank = 0 := by simpa [isZero] using none
    exact (eq_of_rank rank).symm
  · rw [if_neg none, magnitude_trim]
    cases found : (List.range 17).findSome? fun count =>
        neighbour? magnitude (pointPosition magnitude.units unitsPerOne - (count + 1 : Nat)) with
    | none => exact magnitude_exact magnitude
    | some decimal =>
        obtain ⟨count, -, near⟩ := List.exists_of_findSome?_eq_some found
        exact magnitude_of_neighbour? near

end Decimal

end Calculator
