import Calculator.Proofs.Binary64.Rounding

/-!
# The nearest magnitude

Greater ranks have greater values (`Magnitude.unitsAt_strictMono`). Rounding decides between
the two magnitudes around a rational: it takes the closer one, and of two that are equally
close the one of even rank (`Magnitude.isNearest_ofRatio`). No other magnitude meets this
description (`Magnitude.IsNearest.unique`). Infinity counts as the power of two that follows
the largest finite value.
-/

namespace Calculator

namespace Magnitude

/-- The units of the magnitude with the given rank, as if there were no greatest one. -/
def unitsAt (rank : Nat) : Nat :=
  if rank < 2 ^ 52 then rank else (2 ^ 52 + rank % 2 ^ 52) * 2 ^ (rank / 2 ^ 52 - 1)

theorem units_eq_unitsAt (magnitude : Magnitude) : magnitude.units = unitsAt magnitude.rank := rfl

/-- Within a block, and at the start of the next one, units grow in even steps. -/
theorem unitsAt_block {block steps : Nat} (low : block = 0 ∨ 2 ^ 52 ≤ steps)
    (high : steps ≤ 2 ^ 53) : unitsAt (block * 2 ^ 52 + steps) = steps * 2 ^ block := by
  unfold unitsAt
  rcases Nat.lt_or_ge steps (2 ^ 52) with small | normal
  · obtain rfl : block = 0 := by omega
    rw [if_pos (by omega)]
    omega
  rw [if_neg (by omega)]
  rcases Nat.lt_or_ge steps (2 ^ 53) with inside | last
  · have quotient : (block * 2 ^ 52 + steps) / 2 ^ 52 - 1 = block := by omega
    have rest : 2 ^ 52 + (block * 2 ^ 52 + steps) % 2 ^ 52 = steps := by omega
    rw [quotient, rest]
  · obtain rfl : steps = 2 ^ 53 := by omega
    have quotient : (block * 2 ^ 52 + 2 ^ 53) / 2 ^ 52 - 1 = block + 1 := by omega
    have rest : 2 ^ 52 + (block * 2 ^ 52 + 2 ^ 53) % 2 ^ 52 = 2 ^ 52 := by omega
    rw [quotient, rest, Nat.pow_succ 2 block, Nat.mul_comm (2 ^ block), ← Nat.mul_assoc,
      ← Nat.pow_succ]

theorem exists_block (rank : Nat) :
    ∃ block steps, rank = block * 2 ^ 52 + steps ∧ (block = 0 ∨ 2 ^ 52 ≤ steps) ∧
      steps < 2 ^ 53 := by
  rcases Nat.lt_or_ge rank (2 ^ 52) with small | normal
  · exact ⟨0, rank, by omega, .inl rfl, by omega⟩
  · exact ⟨rank / 2 ^ 52 - 1, 2 ^ 52 + rank % 2 ^ 52, by omega, .inr (by omega), by omega⟩

/-- Greater ranks have more units. -/
theorem unitsAt_strictMono : StrictMono unitsAt := by
  refine strictMono_nat_of_lt_succ fun rank => ?_
  obtain ⟨block, steps, rfl, low, high⟩ := exists_block rank
  rw [Nat.add_assoc, unitsAt_block low high.le, unitsAt_block (by omega) high]
  exact Nat.mul_lt_mul_of_pos_right (Nat.lt_succ_self _) (Nat.two_pow_pos _)

end Magnitude

section Grid

variable {f : Nat → ℚ} (increasing : StrictMono f) {r : ℚ} {i j : Nat}
include increasing

/-- At or below a point that a rational has passed, the point itself is closest. -/
theorem le_distance_of_le (low : f i ≤ r) (behind : j ≤ i) :
    |r - f i| ≤ |r - f j| ∧ (|r - f j| = |r - f i| → j = i) := by
  have order := increasing.monotone behind
  rw [abs_of_nonneg (by linarith), abs_of_nonneg (by linarith)]
  exact ⟨by linarith, fun same => increasing.injective (by linarith)⟩

/-- At or above a point that a rational has not reached, the point itself is closest. -/
theorem le_distance_of_ge (high : r ≤ f i) (ahead : i ≤ j) :
    |r - f i| ≤ |r - f j| ∧ (|r - f j| = |r - f i| → j = i) := by
  have order := increasing.monotone ahead
  rw [abs_of_nonpos (by linarith), abs_of_nonpos (by linarith)]
  exact ⟨by linarith, fun same => increasing.injective (by linarith)⟩

/-- Between two points the closer one is closest of all, and in the middle either of them. -/
theorem le_distance_of_between (low : f i ≤ r) (high : r < f (i + 1)) {carry : Nat}
    (side : carry = 0 ∧ 2 * r < f i + f (i + 1) ∨ carry = 1 ∧ f i + f (i + 1) < 2 * r ∨
      carry ≤ 1 ∧ 2 * r = f i + f (i + 1) ∧ Even (i + carry)) (j : Nat) :
    |r - f (i + carry)| ≤ |r - f j| ∧
      (|r - f j| = |r - f (i + carry)| → j = i + carry ∨ Even (i + carry)) := by
  have first : |r - f i| = r - f i := abs_of_nonneg (by linarith)
  have second : |r - f (i + 1)| = f (i + 1) - r := by
    rw [abs_of_neg (by linarith), neg_sub]
  have around : (r - f i ≤ |r - f j| ∧ (|r - f j| = r - f i → j = i)) ∨
      (f (i + 1) - r ≤ |r - f j| ∧ (|r - f j| = f (i + 1) - r → j = i + 1)) := by
    rw [← first, ← second]
    rcases Nat.lt_or_ge i j with ahead | behind
    · exact .inr (le_distance_of_ge increasing high.le ahead)
    · exact .inl (le_distance_of_le increasing low behind)
  rcases side with ⟨rfl, down⟩ | ⟨rfl, up⟩ | ⟨carries, tie, even⟩
  · rw [Nat.add_zero, first]
    rcases around with ⟨close, unique⟩ | ⟨far, -⟩
    · exact ⟨close, fun same => .inl (unique same)⟩
    · exact ⟨by linarith, fun same => by linarith⟩
  · rw [second]
    rcases around with ⟨far, -⟩ | ⟨close, unique⟩
    · exact ⟨by linarith, fun same => by linarith⟩
    · exact ⟨close, fun same => .inl (unique same)⟩
  · refine ⟨?_, fun _ => .inr even⟩
    obtain rfl | rfl : carry = 0 ∨ carry = 1 := by omega
    · rw [Nat.add_zero, first]
      rcases around with ⟨close, -⟩ | ⟨close, -⟩ <;> linarith
    · rw [second]
      rcases around with ⟨close, -⟩ | ⟨close, -⟩ <;> linarith

end Grid

namespace Magnitude

/-- The value of a magnitude. -/
def value (magnitude : Magnitude) : ℚ := magnitude.units / unitsPerOne

/-- The magnitude nearest to a rational; of two that are equally near, the one of even rank. -/
structure IsNearest (q : ℚ) (magnitude : Magnitude) : Prop where
  nearest : ∀ other : Magnitude, |q - magnitude.value| ≤ |q - other.value|
  even : ∀ other : Magnitude, other ≠ magnitude →
    |q - other.value| = |q - magnitude.value| → Even magnitude.rank

-- The exponent is kept as a variable, so that the power is not computed.
theorem unitsPerOne_pos : 0 < unitsPerOne := by
  unfold unitsPerOne
  generalize 1074 = shift
  exact Nat.two_pow_pos shift

/-- Distances may be compared in units. -/
theorem isNearest_of_units {r : ℚ} {magnitude : Magnitude}
    (nearest : ∀ other : Magnitude, |r - magnitude.units| ≤ |r - other.units| ∧
      (|r - other.units| = |r - magnitude.units| →
        other.rank = magnitude.rank ∨ Even magnitude.rank)) :
    IsNearest (r / unitsPerOne) magnitude := by
  have positive : (0 : ℚ) < unitsPerOne := Nat.cast_pos.mpr unitsPerOne_pos
  have scaled (other : Magnitude) :
      |r / unitsPerOne - other.value| = |r - other.units| / unitsPerOne := by
    rw [value, ← sub_div, abs_div, abs_of_pos positive]
  refine ⟨fun other => ?_, fun other different same => ?_⟩
  · rw [scaled, scaled]
    exact (div_le_div_iff_of_pos_right positive).mpr (nearest other).1
  · rw [scaled, scaled, div_left_inj' positive.ne'] at same
    exact ((nearest other).2 same).resolve_left fun rank => different (eq_of_rank rank)

/-- The quotient in steps of its block has at most 53 bits, and 53 unless it is in the first
block. -/
theorem steps_of_block (quotient : Nat) :
    let block := quotient.log2 - 52
    (block = 0 ∨ 2 ^ 52 ≤ quotient / 2 ^ block) ∧ quotient / 2 ^ block < 2 ^ 53 := by
  intro block
  rcases Nat.lt_or_ge quotient (2 ^ 53) with small | large
  · have first : block = 0 := by
      by_cases zero : quotient = 0
      · simp [block, zero]
      · have bits := (Nat.log2_lt zero).mpr small
        omega
    exact ⟨.inl first, Nat.lt_of_le_of_lt (Nat.div_le_self _ _) small⟩
  · have nonzero : quotient ≠ 0 := by omega
    have bits : 53 ≤ quotient.log2 := (Nat.le_log2 nonzero).mpr large
    obtain ⟨lower, upper⟩ := (Nat.log2_eq_iff nonzero).mp (rfl : quotient.log2 = _)
    have size : quotient.log2 = 52 + block := by omega
    rw [size] at lower upper
    refine ⟨.inr ((Nat.le_div_iff_mul_le (Nat.two_pow_pos _)).mpr ?_), ?_⟩
    · rwa [← Nat.pow_add]
    · rw [Nat.div_lt_iff_lt_mul (Nat.two_pow_pos _), ← Nat.pow_add]
      rwa [Nat.add_right_comm] at upper

/-- Rounding takes the rank on one side of a rational or the next one. -/
theorem exists_rank_ofUnits (num : Nat) {den : Nat} (positive : 0 < den) :
    ∃ rank carry, (ofUnits num den).rank = min infinityRank (rank + carry) ∧
      unitsAt rank * den ≤ num ∧ num < unitsAt (rank + 1) * den ∧
      (carry = 0 ∧ 2 * num < (unitsAt rank + unitsAt (rank + 1)) * den ∨
        carry = 1 ∧ (unitsAt rank + unitsAt (rank + 1)) * den < 2 * num ∨
        carry ≤ 1 ∧ 2 * num = (unitsAt rank + unitsAt (rank + 1)) * den ∧
          Even (rank + carry)) := by
  obtain ⟨low, high⟩ := steps_of_block (num / den)
  set block := (num / den).log2 - 52 with sort
  rw [Nat.div_div_eq_div_mul] at low high
  set step := den * 2 ^ block with width
  set steps := num / step with count
  have here : unitsAt (block * 2 ^ 52 + steps) * den = step * steps := by
    rw [unitsAt_block low high.le, width]
    ring
  have next : unitsAt (block * 2 ^ 52 + steps + 1) * den = step * steps + step := by
    rw [Nat.add_assoc, @unitsAt_block block (steps + 1) (by omega) high, width]
    ring
  have split : step * steps + num % step = num := Nat.div_add_mod num step
  have bound : num % step < step := Nat.mod_lt _ (Nat.mul_pos positive (Nat.two_pow_pos _))
  have rank (carry : Nat) (rounded : roundHalfEven num step = steps + carry) :
      (ofUnits num den).rank = min infinityRank (block * 2 ^ 52 + steps + carry) := by
    rw [rank_ofUnits, rounded, Nat.add_assoc]
  rcases lt_trichotomy (2 * (num % step)) step with down | tie | up
  · refine ⟨block * 2 ^ 52 + steps, 0, rank 0 ?_, by omega, by omega, .inl ⟨rfl, ?_⟩⟩
    · simp only [roundHalfEven, down, if_true]
      rfl
    · rw [Nat.add_mul]
      omega
  · refine ⟨block * 2 ^ 52 + steps, steps % 2, rank _ ?_, by omega, by omega,
      .inr (.inr ⟨by omega, ?_, ?_⟩)⟩
    · simp only [roundHalfEven, tie, lt_irrefl, if_false]
      rfl
    · rw [Nat.add_mul]
      omega
    · rw [Nat.even_iff]
      omega
  · refine ⟨block * 2 ^ 52 + steps, 1, rank 1 ?_, by omega, by omega, .inr (.inl ⟨rfl, ?_⟩)⟩
    · simp only [roundHalfEven, up, up.not_gt, if_true, if_false]
      rfl
    · rw [Nat.add_mul]
      omega

/-- Rounding finds the nearest magnitude. -/
theorem isNearest_ofUnits (num : Nat) {den : Nat} (positive : 0 < den) :
    IsNearest ((num : ℚ) / den / unitsPerOne) (ofUnits num den) := by
  obtain ⟨rank, carry, rounded, low, high, side⟩ := exists_rank_ofUnits num positive
  have increasing : StrictMono fun rank => (unitsAt rank : ℚ) :=
    Nat.strictMono_cast.comp unitsAt_strictMono
  have shares : (0 : ℚ) < den := Nat.cast_pos.mpr positive
  have below : (unitsAt rank : ℚ) ≤ num / den := (le_div_iff₀ shares).mpr (mod_cast low)
  have above : (num / den : ℚ) < unitsAt (rank + 1) := (div_lt_iff₀ shares).mpr (mod_cast high)
  refine isNearest_of_units fun other => ?_
  rw [units_eq_unitsAt, units_eq_unitsAt, rounded]
  have bounded : other.rank ≤ infinityRank := other.rank_le
  by_cases full : infinityRank ≤ rank
  · -- All magnitudes are passed; infinity is the last of them.
    obtain ⟨closest, unique⟩ :=
      le_distance_of_le increasing ((increasing.monotone full).trans below) bounded
    rw [Nat.min_eq_left (by omega)]
    exact ⟨closest, fun same => .inl (unique same)⟩
  · have last : min infinityRank (rank + carry) = rank + carry := by omega
    rw [last]
    refine le_distance_of_between increasing below above ?_ other.rank
    rw [← mul_div_assoc, div_lt_iff₀ shares, lt_div_iff₀ shares, div_eq_iff shares.ne']
    exact_mod_cast side

/-- The magnitude that is found for a quotient is the one nearest to it. -/
theorem isNearest_ofRatio (num : Nat) {den : Nat} (positive : 0 < den) :
    IsNearest ((num : ℚ) / den) (ofRatio num den) := by
  have units : (unitsPerOne : ℚ) ≠ 0 := (Nat.cast_pos.mpr unitsPerOne_pos).ne'
  have scaled : (num : ℚ) / den = ((num * unitsPerOne : Nat) : ℚ) / den / unitsPerOne := by
    push_cast
    field_simp
  rw [scaled]
  exact isNearest_ofUnits (num * unitsPerOne) positive

theorem value_lt_of_rank {first second : Magnitude} (order : first.rank < second.rank) :
    first.value < second.value :=
  div_lt_div_of_pos_right (Nat.cast_lt.mpr (unitsAt_strictMono order))
    (Nat.cast_pos.mpr unitsPerOne_pos)

theorem value_injective : Function.Injective value := by
  intro first second same
  rcases lt_trichotomy first.rank second.rank with order | rank | order
  · exact absurd same (value_lt_of_rank order).ne
  · exact eq_of_rank rank
  · exact absurd same (value_lt_of_rank order).ne'

/-- A magnitude is nearest to its own value. -/
theorem isNearest_value (magnitude : Magnitude) : magnitude.IsNearest magnitude.value := by
  refine ⟨fun other => ?_, fun other different same => ?_⟩
  · rw [sub_self, abs_zero]
    exact abs_nonneg _
  · rw [sub_self, abs_zero, abs_eq_zero, sub_eq_zero] at same
    exact absurd (value_injective same).symm different

/-- Two magnitudes that were equally near would have even ranks, and one between them would be
nearer. -/
theorem IsNearest.rank_le {q : ℚ} {first second : Magnitude} (nearest : first.IsNearest q)
    (otherwise : second.IsNearest q) : second.rank ≤ first.rank := by
  by_contra! order
  have different : first ≠ second := fun same => order.ne (congrArg rank same)
  have same : |q - first.value| = |q - second.value| :=
    le_antisymm (nearest.nearest second) (otherwise.nearest first)
  have low : Even first.rank := nearest.even second different.symm same.symm
  have high : Even second.rank := otherwise.even first different same
  let between : Magnitude := ⟨first.rank + 1, order.trans_le second.rank_le⟩
  have above : first.value < between.value := value_lt_of_rank (Nat.lt_succ_self _)
  have below : between.value < second.value := by
    refine value_lt_of_rank (show first.rank + 1 < second.rank from ?_)
    rw [Nat.even_iff] at low high
    omega
  rcases abs_eq_abs.mp same with equal | opposite
  · linarith
  · have nearer : |q - between.value| < q - first.value := abs_lt.mpr ⟨by linarith, by linarith⟩
    exact absurd (nearest.nearest between) (not_le.mpr (nearer.trans_le (le_abs_self _)))

/-- A rational has one nearest magnitude. -/
theorem IsNearest.unique {q : ℚ} {first second : Magnitude} (nearest : first.IsNearest q)
    (otherwise : second.IsNearest q) : first = second :=
  eq_of_rank (le_antisymm (otherwise.rank_le nearest) (nearest.rank_le otherwise))

/-- A finite magnitude whose value is an integer. -/
def IsInteger (magnitude : Magnitude) (n : Int) : Prop :=
  magnitude.isInfinite = false ∧ magnitude.value = n

theorem isInteger_iff {magnitude : Magnitude} {n : Int} :
    magnitude.IsInteger n ↔
      magnitude.isInfinite = false ∧ (magnitude.units : Int) = n * unitsPerOne := by
  have units : (unitsPerOne : ℚ) ≠ 0 := (Nat.cast_pos.mpr unitsPerOne_pos).ne'
  refine and_congr_right fun _ => ?_
  rw [value, div_eq_iff units]
  exact_mod_cast Iff.rfl

/-- Up to 53 bits followed by zeros are the units of a magnitude. -/
theorem exists_units {steps block : Nat} (short : steps ≤ 2 ^ 53) (low : block ≤ 2000) :
    ∃ magnitude : Magnitude, magnitude.isInfinite = false ∧
      magnitude.units = steps * 2 ^ block := by
  have finite (block steps : Nat) (short : steps ≤ 2 ^ 53) (low : block ≤ 2000)
      (normal : block = 0 ∨ 2 ^ 52 ≤ steps) :
      ∃ magnitude : Magnitude, magnitude.isInfinite = false ∧
        magnitude.units = steps * 2 ^ block := by
    have bounded : block * 2 ^ 52 + steps < infinityRank := by
      unfold infinityRank
      omega
    refine ⟨⟨block * 2 ^ 52 + steps, bounded.le⟩, ?_, unitsAt_block normal short⟩
    exact beq_eq_false_iff_ne.mpr bounded.ne
  induction block generalizing steps with
  | zero => exact finite 0 steps short low (.inl rfl)
  | succ block ih =>
      rcases Nat.lt_or_ge steps (2 ^ 52) with small | normal
      · obtain ⟨magnitude, below, units⟩ := @ih (steps * 2) (by omega) (by omega)
        refine ⟨magnitude, below, ?_⟩
        rw [units, Nat.pow_succ, Nat.mul_assoc, Nat.mul_comm 2]
      · exact finite (block + 1) steps short low (.inr normal)

end Magnitude

end Calculator
