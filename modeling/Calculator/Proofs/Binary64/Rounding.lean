import Calculator.Binary64.Rounding
import Mathlib

/-!
# Rounding depends on the value alone

A common factor of numerator and denominator does not matter to rounding
(`Magnitude.ofUnits_mul`), a value that is a magnitude is rounded to itself
(`Magnitude.ofUnits_units`), and values far above and far below all finite
positive ones go to infinity and to zero.
-/

namespace Calculator

theorem roundHalfEven_mul {factor : Nat} (positive : 0 < factor) (num den : Nat) :
    roundHalfEven (num * factor) (den * factor) = roundHalfEven num den := by
  have quotient : num * factor / (den * factor) = num / den := Nat.mul_div_mul_right _ _ positive
  have twice : 2 * (num * factor % (den * factor)) = 2 * (num % den) * factor := by
    rw [Nat.mul_mod_mul_right, Nat.mul_assoc]
  unfold roundHalfEven
  simp only [quotient, twice, Nat.mul_lt_mul_right positive]

theorem roundHalfEven_mul_self {den : Nat} (positive : 0 < den) (num : Nat) :
    roundHalfEven (num * den) den = num := by
  have quotient : num * den / den = num := Nat.mul_div_cancel _ positive
  have rest : num * den % den = 0 := Nat.mul_mod_left _ _
  unfold roundHalfEven
  simp only [quotient, rest, Nat.mul_zero, positive, ↓reduceIte]

theorem roundHalfEven_eq_zero {num den : Nat} (small : 2 * num < den) :
    roundHalfEven num den = 0 := by
  have below : num < den := by omega
  have quotient : num / den = 0 := Nat.div_eq_of_lt below
  have rest : num % den = num := Nat.mod_eq_of_lt below
  unfold roundHalfEven
  simp only [quotient, rest, small, ↓reduceIte]

namespace Magnitude

theorem eq_of_rank {first second : Magnitude} (same : first.rank = second.rank) :
    first = second := by
  cases first
  cases second
  cases same
  rfl

theorem isInfinite_iff {magnitude : Magnitude} :
    magnitude.isInfinite = true ↔ magnitude = infinity :=
  ⟨fun same => eq_of_rank (beq_iff_eq.mp same), fun same => same ▸ rfl⟩

theorem rank_ofUnits (num den : Nat) :
    (ofUnits num den).rank = min infinityRank (((num / den).log2 - 52) * 2 ^ 52 +
      roundHalfEven num (den * 2 ^ ((num / den).log2 - 52))) := rfl

theorem units_of_small {magnitude : Magnitude} (small : magnitude.rank < 2 ^ 52) :
    magnitude.units = magnitude.rank := if_pos small

theorem units_of_normal {magnitude : Magnitude} (normal : 2 ^ 52 ≤ magnitude.rank) :
    magnitude.units =
      (2 ^ 52 + magnitude.rank % 2 ^ 52) * 2 ^ (magnitude.rank / 2 ^ 52 - 1) :=
  if_neg (Nat.not_lt.mpr normal)

theorem ofUnits_mul {factor : Nat} (positive : 0 < factor) (num den : Nat) :
    ofUnits (num * factor) (den * factor) = ofUnits num den := by
  have quotient : num * factor / (den * factor) = num / den := Nat.mul_div_mul_right _ _ positive
  apply eq_of_rank
  rw [rank_ofUnits, rank_ofUnits, quotient, Nat.mul_right_comm den, roundHalfEven_mul positive]

theorem ofRatio_mul {factor : Nat} (positive : 0 < factor) (num den : Nat) :
    ofRatio (num * factor) (den * factor) = ofRatio num den := by
  unfold ofRatio
  rw [Nat.mul_right_comm num, ofUnits_mul positive]

theorem ofUnits_eq_infinity {num den bits : Nat} (many : 2099 ≤ bits)
    (large : 2 ^ bits ≤ num / den) : ofUnits num den = infinity := by
  have nonzero : num / den ≠ 0 := by
    intro zero
    rw [zero] at large
    exact absurd large (Nat.not_le.mpr (Nat.two_pow_pos bits))
  have high : bits ≤ (num / den).log2 := (Nat.le_log2 nonzero).mpr large
  have blocks : infinityRank ≤ ((num / den).log2 - 52) * 2 ^ 52 := by
    have enough : 2047 ≤ (num / den).log2 - 52 := by omega
    have rank : infinityRank = 2047 * 2 ^ 52 := rfl
    rw [rank]
    exact Nat.mul_le_mul_right _ enough
  apply eq_of_rank
  rw [rank_ofUnits]
  exact Nat.min_eq_left (Nat.le_trans blocks (Nat.le_add_right _ _))

theorem ofUnits_eq_zero {num den : Nat} (small : 2 * num < den) : ofUnits num den = zero := by
  have quotient : num / den = 0 := Nat.div_eq_of_lt (by omega)
  apply eq_of_rank
  rw [rank_ofUnits, quotient, Nat.log2_zero, Nat.zero_sub, Nat.zero_mul, Nat.pow_zero, Nat.mul_one,
    roundHalfEven_eq_zero small, Nat.min_zero]
  rfl

/-- The block of a magnitude of at least `2 ^ 52` units. -/
theorem log2_units {magnitude : Magnitude} (normal : 2 ^ 52 ≤ magnitude.rank) :
    magnitude.units.log2 = magnitude.rank / 2 ^ 52 - 1 + 52 := by
  have bound : magnitude.rank % 2 ^ 52 < 2 ^ 52 := Nat.mod_lt _ (by decide)
  have lower : 2 ^ 52 ≤ 2 ^ 52 + magnitude.rank % 2 ^ 52 := Nat.le_add_right _ _
  have upper : 2 ^ 52 + magnitude.rank % 2 ^ 52 < 2 ^ 53 := by omega
  have positive : 0 < 2 ^ (magnitude.rank / 2 ^ 52 - 1) := Nat.two_pow_pos _
  rw [units_of_normal normal]
  have nonzero : (2 ^ 52 + magnitude.rank % 2 ^ 52) * 2 ^ (magnitude.rank / 2 ^ 52 - 1) ≠ 0 :=
    Nat.mul_ne_zero (by omega) (by omega)
  rw [Nat.log2_eq_iff nonzero]
  constructor
  · rw [Nat.pow_add, Nat.mul_comm]
    exact Nat.mul_le_mul_right _ lower
  · rw [Nat.add_assoc, Nat.pow_add, Nat.mul_comm (2 ^ _)]
    exact Nat.mul_lt_mul_of_pos_right upper positive

/-- A magnitude is the one nearest to its own units. -/
theorem ofUnits_units (magnitude : Magnitude) : ofUnits magnitude.units 1 = magnitude := by
  apply eq_of_rank
  rw [rank_ofUnits, Nat.div_one, Nat.one_mul]
  by_cases normal : 2 ^ 52 ≤ magnitude.rank
  · have block : magnitude.units.log2 - 52 = magnitude.rank / 2 ^ 52 - 1 := by
      rw [log2_units normal, Nat.add_sub_cancel]
    have steps : roundHalfEven magnitude.units (2 ^ (magnitude.rank / 2 ^ 52 - 1)) =
        2 ^ 52 + magnitude.rank % 2 ^ 52 := by
      rw [units_of_normal normal, roundHalfEven_mul_self (Nat.two_pow_pos _)]
    rw [block, steps]
    have split := Nat.div_add_mod magnitude.rank (2 ^ 52)
    have bound := magnitude.rank_le
    omega
  · have small : magnitude.rank < 2 ^ 52 := Nat.not_le.mp normal
    have block : magnitude.rank.log2 - 52 = 0 := by
      by_cases zero : magnitude.rank = 0
      · rw [zero, Nat.log2_zero]
      · have low := (Nat.log2_lt zero).mpr small
        omega
    rw [units_of_small small, block]
    have exact := roundHalfEven_mul_self Nat.one_pos magnitude.rank
    rw [Nat.mul_one] at exact
    rw [Nat.pow_zero, exact]
    have bound := magnitude.rank_le
    omega

end Magnitude

end Calculator
