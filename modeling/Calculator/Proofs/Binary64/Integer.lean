import Calculator.Binary64.Arithmetic
import Calculator.Proofs.Binary64.Nearest
import Calculator.Proofs.Decimal.Reading

/-!
# Integers and the greatest magnitudes

The nearest magnitude is infinity from a certain limit on, the middle between the greatest finite
magnitude and the power of two that follows it (`Magnitude.IsNearest.isInfinite_iff`). Below the
limit the magnitude nearest to an integer is an integer again: up to 53 bits it is the same one,
and magnitudes with more bits have no fractions (`Magnitude.IsNearest.exists_isInteger`). With a
sign this is what an integer becomes as a binary64 number (`Binary64.isNearest_ofInt`).
-/

namespace Calculator

namespace Magnitude

variable {magnitude other : Magnitude} {q : ℚ}

/-- A rational is not farther from the upper of two points exactly if it has reached their
middle. -/
theorem abs_sub_le_abs_sub_iff {low high : ℚ} (order : low < high) :
    |q - high| ≤ |q - low| ↔ low + high ≤ 2 * q := by
  rw [← sq_le_sq]
  constructor <;> intro bound <;> nlinarith

theorem IsNearest.le_value (near : magnitude.IsNearest q) (reached : other.value ≤ q) :
    other.value ≤ magnitude.value := by
  by_contra! below
  have farther := near.nearest other
  rw [abs_of_nonneg (by linarith), abs_of_nonneg (by linarith)] at farther
  linarith

theorem IsNearest.value_le (near : magnitude.IsNearest q) (bound : q ≤ other.value) :
    magnitude.value ≤ other.value := by
  by_contra! above
  have middle := (abs_sub_le_abs_sub_iff above).mp (near.nearest other)
  linarith

theorem value_le_of_rank {first second : Magnitude} (order : first.rank ≤ second.rank) :
    first.value ≤ second.value := by
  rcases order.lt_or_eq with below | same
  · exact (value_lt_of_rank below).le
  · exact (congrArg value (eq_of_rank same)).le

/-- Between the greatest finite magnitude and the next power of two. -/
def limit : ℚ := 2 ^ 1024 - 2 ^ 970

/-- The greatest finite magnitude. -/
def greatest : Magnitude := ⟨infinityRank - 1, Nat.sub_le _ _⟩

/-- From one on, the steps of a block are powers of two. -/
theorem value_of_rank {steps shift : Nat} (low : 2 ^ 52 ≤ steps) (high : steps ≤ 2 ^ 53)
    (rank : magnitude.rank = (1074 + shift) * 2 ^ 52 + steps) :
    magnitude.value = steps * 2 ^ shift := by
  obtain ⟨places, size, units⟩ := Decimal.exists_unitsPerOne
  have positive : (0 : ℚ) < 2 ^ places := by positivity
  rw [value, units_eq_unitsAt, rank, ← size, unitsAt_block (.inr low) high, units]
  push_cast
  rw [pow_add]
  field_simp

theorem greatest_lt_infinity : greatest.value < infinity.value :=
  value_lt_of_rank (Nat.sub_lt (by decide) Nat.one_pos)

/-- The limit is in the middle. -/
theorem greatest_add_infinity : greatest.value + infinity.value = 2 * limit := by
  have last : greatest.value = ((2 ^ 53 - 1 : Nat) : ℚ) * 2 ^ 971 :=
    value_of_rank (by decide) (by decide) rfl
  have next : infinity.value = ((2 ^ 52 : Nat) : ℚ) * 2 ^ 972 :=
    value_of_rank (by decide) (by decide) rfl
  have shifted : (2 : ℚ) ^ 1024 = 2 ^ 54 * 2 ^ 970 := pow_add 2 54 970
  have first : (2 : ℚ) ^ 971 = 2 * 2 ^ 970 := pow_succ' 2 970
  have second : (2 : ℚ) ^ 972 = 2 ^ 2 * 2 ^ 970 := pow_add 2 2 970
  rw [last, next, limit, shifted, first, second]
  generalize (2 : ℚ) ^ 970 = unit
  norm_num
  ring

/-- **Overflow.** The magnitude nearest to a rational is infinite from the limit on. The limit
itself is equally near to both magnitudes, but the rank of the finite one is odd. -/
theorem IsNearest.isInfinite_iff (near : magnitude.IsNearest q) :
    magnitude.isInfinite = true ↔ limit ≤ q := by
  have middle := greatest_add_infinity
  have upper := @abs_sub_le_abs_sub_iff q _ _ greatest_lt_infinity
  rw [Magnitude.isInfinite_iff]
  constructor
  · rintro rfl
    have reached := upper.mp (near.nearest greatest)
    linarith
  · intro reached
    by_contra finite
    have different : magnitude.rank ≠ infinityRank := fun same => finite (eq_of_rank same)
    have below : magnitude.value ≤ greatest.value := by
      refine value_le_of_rank (show magnitude.rank ≤ infinityRank - 1 from ?_)
      have bounded := magnitude.rank_le
      omega
    have inside : greatest.value < q := by linarith [greatest_lt_infinity]
    have closer : |q - infinity.value| ≤ |q - greatest.value| := upper.mpr (by linarith)
    have nearest : |q - magnitude.value| ≤ |q - infinity.value| := near.nearest infinity
    have tie : |q - magnitude.value| = |q - greatest.value| := by
      refine le_antisymm (nearest.trans closer) ?_
      rw [abs_of_pos (by linarith), abs_of_pos (by linarith)]
      linarith
    obtain rfl : magnitude = greatest := by
      rw [abs_of_pos (by linarith), abs_of_pos (by linarith)] at tie
      exact value_injective (by linarith)
    have even : Even greatest.rank :=
      near.even infinity (Ne.symm finite) (le_antisymm closer nearest)
    exact absurd even (by decide)

/-- Magnitudes of more than 53 bits have no fractions. -/
theorem exists_isInteger_of_le (finite : magnitude.isInfinite = false)
    (large : (2 : ℚ) ^ 53 ≤ magnitude.value) : ∃ k : Nat, magnitude.IsInteger k := by
  obtain ⟨shift, size, units⟩ := Decimal.exists_unitsPerOne
  obtain ⟨block, steps, rank, low, high⟩ := exists_block magnitude.rank
  have count : magnitude.units = steps * 2 ^ block := by
    rw [units_eq_unitsAt, rank, unitsAt_block low high.le]
  have reached : 2 ^ 53 * 2 ^ shift ≤ steps * 2 ^ block := by
    rw [value, le_div_iff₀ (Nat.cast_pos.mpr unitsPerOne_pos), count, units] at large
    exact_mod_cast large
  have wide : shift ≤ block := by
    by_contra! narrow
    have smaller : steps * 2 ^ block < 2 ^ 53 * 2 ^ shift :=
      Nat.mul_lt_mul'' high (Nat.pow_lt_pow_right (by decide) narrow)
    omega
  refine ⟨steps * 2 ^ (block - shift), isInteger_iff.mpr ⟨finite, ?_⟩⟩
  have split : 2 ^ (block - shift) * 2 ^ shift = 2 ^ block := by
    rw [← Nat.pow_add, Nat.sub_add_cancel wide]
  rw [count, units, ← split]
  push_cast
  ring

theorem isNearest_ofNat (n : Nat) : (ofNat n).IsNearest n := by
  have near := isNearest_ofRatio n Nat.one_pos
  rwa [Nat.cast_one, div_one] at near

theorem IsInteger.unique {m n : Int} (integer : magnitude.IsInteger m)
    (otherwise : magnitude.IsInteger n) : m = n :=
  Int.cast_injective (integer.2.symm.trans otherwise.2 : (m : ℚ) = n)

/-- An integer that is a magnitude is nearest to itself. -/
theorem IsInteger.eq_of_isNearest {nearest : Magnitude} {n : Int}
    (integer : magnitude.IsInteger n) (near : nearest.IsNearest n) : nearest = magnitude :=
  near.unique (integer.2 ▸ magnitude.isNearest_value)

/-- Integers of at most 53 bits followed by zeros are magnitudes. -/
theorem exists_isInteger_shifted {n zeros : Nat} (short : n ≤ 2 ^ 53) (few : zeros ≤ 900) :
    ∃ magnitude : Magnitude, magnitude.IsInteger (n * 2 ^ zeros) := by
  obtain ⟨shift, size, units⟩ := Decimal.exists_unitsPerOne
  obtain ⟨magnitude, finite, same⟩ := exists_units short (show zeros + shift ≤ 2000 by omega)
  refine ⟨magnitude, isInteger_iff.mpr ⟨finite, ?_⟩⟩
  rw [same, units, Nat.pow_add]
  push_cast
  ring

/-- Integers of at most 53 bits are magnitudes. -/
theorem exists_isInteger {n : Nat} (short : n ≤ 2 ^ 53) :
    ∃ magnitude : Magnitude, magnitude.IsInteger n := by
  obtain ⟨magnitude, integer⟩ := exists_isInteger_shifted short (Nat.zero_le 900)
  exact ⟨magnitude, by rwa [pow_zero, mul_one] at integer⟩

/-- A finite magnitude that is nearest to an integer is an integer. -/
theorem IsNearest.exists_isInteger {n : Nat} (near : magnitude.IsNearest n)
    (finite : magnitude.isInfinite = false) : ∃ k : Nat, magnitude.IsInteger k := by
  rcases Nat.le_total n (2 ^ 53) with short | long
  · obtain ⟨same, integer⟩ := Magnitude.exists_isInteger short
    obtain rfl : magnitude = same := integer.eq_of_isNearest near
    exact ⟨n, integer⟩
  · obtain ⟨power, integer⟩ := Magnitude.exists_isInteger (Nat.le_refl (2 ^ 53))
    have value : power.value = (2 : ℚ) ^ 53 := integer.2.trans (by norm_num)
    refine exists_isInteger_of_le finite (value ▸ near.le_value ?_)
    rw [value]
    exact_mod_cast long

end Magnitude

namespace Binary64

/-- The number nearest to a rational: its magnitude is nearest, and it has the sign of the
rational, also where it is zero or infinite. -/
def IsNearest (q : ℚ) : Binary64 → Prop
  | nan => False
  | signed negative magnitude => magnitude.IsNearest |q| ∧ negative = decide (q < 0)

theorem ofInt_eq_signed (n : Int) :
    ofInt n = signed (decide (n < 0)) (Magnitude.ofNat n.natAbs) := by
  unfold ofInt ofRatio
  split
  · rename_i zero
    subst zero
    rw [Int.natAbs_zero, Magnitude.ofNat, Decimal.ofRatio_zero Nat.one_pos]
    rfl
  · rfl

/-- An integer becomes the number nearest to it. -/
theorem isNearest_ofInt (n : Int) : (ofInt n).IsNearest n := by
  rw [ofInt_eq_signed]
  refine ⟨?_, decide_eq_decide.mpr Int.cast_lt_zero.symm⟩
  rw [← Int.cast_abs, Int.abs_eq_natAbs, Int.cast_natCast]
  exact Magnitude.isNearest_ofNat n.natAbs

theorem isFinite_ofInt (n : Int) : (ofInt n).isFinite = true ↔ |(n : ℚ)| < Magnitude.limit := by
  have near := isNearest_ofInt n
  rw [ofInt_eq_signed] at near ⊢
  rw [isFinite, Bool.not_eq_true', ← Bool.not_eq_true, near.1.isInfinite_iff]
  exact not_le

section Integer

variable {magnitude : Magnitude} {n : Int} (integer : magnitude.IsInteger n) (negative : Bool)
include integer

theorem scaled_of_isInteger :
    (signed negative magnitude).scaled = (if negative then -n else n) * unitsPerOne := by
  have units := (Magnitude.isInteger_iff.mp integer).2
  cases negative with
  | false => exact units
  | true =>
      rw [if_pos rfl, Int.neg_mul, ← units]
      rfl

theorem isIntegral_of_isInteger : (signed negative magnitude).isIntegral = true := by
  rw [isIntegral, scaled_of_isInteger integer, Int.mul_emod_left, isFinite, integer.1]
  rfl

theorem truncate_of_isInteger :
    (signed negative magnitude).truncate = if negative then -n else n := by
  have positive : (unitsPerOne : Int) ≠ 0 := by
    exact_mod_cast Magnitude.unitsPerOne_pos.ne'
  rw [truncate, scaled_of_isInteger integer, Int.mul_tdiv_cancel _ positive]

end Integer

end Binary64

end Calculator
