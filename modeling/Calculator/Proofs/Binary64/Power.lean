import Calculator.Binary64.Elementary
import Calculator.Proofs.Binary64.Integer

/-!
# Powers of integers

The cut-offs of `Binary64.intPower` for large exponents do not matter: a power of an integer is
always the number nearest to the exact power (`Binary64.exists_intPower`). So it is infinite exactly
if the exact power has reached the limit. An exponent that is too long for a binary64 number may be
rounded before, since a power with such an exponent is far above the limit or far below it, or the
base is one (`Magnitude.limit_le_zpow_congr`).
-/

namespace Calculator

namespace Magnitude

theorem limit_le_two_pow : limit ≤ 2 ^ 1024 :=
  sub_le_self _ (by positivity)

theorem two_pow_lt_limit {n : Nat} (low : n ≤ 1023) : 2 ^ n < limit := by
  have double : (2 : ℚ) ^ 1024 = 2 * 2 ^ 1023 := pow_succ' 2 1023
  have less : (2 : ℚ) ^ 970 < 2 ^ 1023 := pow_lt_pow_right₀ one_lt_two (by decide)
  have power : (2 : ℚ) ^ n ≤ 2 ^ 1023 := pow_le_pow_right₀ one_le_two low
  rw [limit, double]
  generalize (2 : ℚ) ^ 1023 = half at less power ⊢
  generalize (2 : ℚ) ^ 970 = step at less ⊢
  linarith

theorem one_lt_limit : 1 < limit := by
  have power := two_pow_lt_limit (Nat.zero_le 1023)
  rwa [pow_zero] at power

section Exponents

variable {size : ℚ} {n m : Int}

theorem limit_le_zpow (large : 2 ≤ size) (high : 1024 ≤ n) : limit ≤ size ^ n := by
  calc limit ≤ 2 ^ 1024 := limit_le_two_pow
    _ = 2 ^ (1024 : Int) := (zpow_natCast 2 1024).symm
    _ ≤ 2 ^ n := zpow_le_zpow_right₀ one_le_two high
    _ ≤ size ^ n := zpow_le_zpow_left₀ (by omega) zero_le_two large

theorem zpow_lt_limit (positive : 1 ≤ size) (low : n ≤ 0) : size ^ n < limit :=
  (zpow_le_one_of_nonpos₀ positive low).trans_lt one_lt_limit

/-- Exponents of more than 53 bits may be rounded: they stay that long. -/
theorem limit_le_zpow_congr {k : Nat} (positive : 0 < k)
    (alike : n = m ∨ 1024 ≤ n ∧ 1024 ≤ m ∨ n ≤ 0 ∧ m ≤ 0) :
    limit ≤ (k : ℚ) ^ n ↔ limit ≤ (k : ℚ) ^ m := by
  have one : (1 : ℚ) ≤ k := Nat.one_le_cast.mpr positive
  rcases alike with rfl | ⟨first, second⟩ | ⟨first, second⟩
  · exact Iff.rfl
  · rcases Nat.eq_or_lt_of_le positive with rfl | large
    · rw [Nat.cast_one, one_zpow, one_zpow]
    · have two : (2 : ℚ) ≤ k := Nat.ofNat_le_cast.mpr large
      exact iff_of_true (limit_le_zpow two first) (limit_le_zpow two second)
  · exact iff_of_false (zpow_lt_limit one first).not_ge (zpow_lt_limit one second).not_ge

end Exponents

/-- Beyond the exponent 1100 the powers of two and of larger numbers are infinite. -/
theorem ofNat_pow_eq_infinity {size exponent : Nat} (large : 2 ≤ size) (high : 1100 < exponent) :
    ofNat (size ^ exponent) = infinity := by
  obtain ⟨shift, units, same⟩ := Decimal.exists_unitsPerOne
  have power : 2 ^ exponent ≤ size ^ exponent := Nat.pow_le_pow_left large exponent
  have scaled : 2 ^ (exponent + shift) ≤ size ^ exponent * unitsPerOne / 1 := by
    rw [Nat.div_one, same, Nat.pow_add]
    exact Nat.mul_le_mul_right _ power
  exact ofUnits_eq_infinity (by omega) scaled

theorem ofRatio_pow_eq_zero {size exponent : Nat} (large : 2 ≤ size) (high : 1100 < exponent) :
    ofRatio 1 (size ^ exponent) = zero := by
  obtain ⟨shift, units, same⟩ := Decimal.exists_unitsPerOne
  have power : 2 ^ exponent ≤ size ^ exponent := Nat.pow_le_pow_left large exponent
  have scaled : 2 * (1 * unitsPerOne) < 2 ^ exponent := by
    rw [Nat.one_mul, same, ← Nat.pow_succ']
    exact Nat.pow_lt_pow_right (by decide) (by omega)
  exact ofUnits_eq_zero (scaled.trans_le power)

/-- The powers of a number beyond the limit do not come below it. -/
theorem limit_le_value_zpow {n : Nat} {m : Int} (beyond : limit ≤ n) (positive : 0 < m) :
    limit ≤ (ofNat n).value ^ m := by
  have above : limit ≤ infinity.value := by
    have middle := greatest_add_infinity
    have order := greatest_lt_infinity
    linarith
  rw [isInfinite_iff.mp ((isNearest_ofNat n).isInfinite_iff.mpr beyond)]
  calc limit ≤ infinity.value := above
    _ = infinity.value ^ (1 : Int) := (zpow_one _).symm
    _ ≤ infinity.value ^ m := zpow_le_zpow_right₀ (one_lt_limit.le.trans above) positive

/-- With an exponent beyond the limit no base but one stays below it. -/
theorem limit_le_value_zpow_of_le {n : Nat} {m : Int} (large : 2 ≤ n) (beyond : limit ≤ m) :
    limit ≤ (ofNat n).value ^ m := by
  obtain ⟨two, exact⟩ := exists_isInteger (show 2 ≤ 2 ^ 53 by decide)
  have kept : two.value ≤ (ofNat n).value := by
    refine (isNearest_ofNat n).le_value ?_
    rw [exact.2, Int.cast_natCast]
    exact Nat.cast_le.mpr large
  rw [exact.2, Int.cast_natCast, Nat.cast_ofNat] at kept
  have high : (2 ^ 10 : Int) ≤ m := by
    exact_mod_cast ((two_pow_lt_limit (show 10 ≤ 1023 by decide)).trans_le beyond).le
  exact limit_le_zpow kept (by omega)

theorem value_zero : zero.value = 0 := by
  have none : zero.units = 0 := units_of_small (Nat.two_pow_pos 52)
  rw [value, none, Nat.cast_zero, zero_div]

theorem zero_zpow_lt_limit (n : Int) : (0 : ℚ) ^ n < limit := by
  rw [zero_zpow_eq]
  split
  · exact one_lt_limit
  · exact one_pos.trans one_lt_limit

theorem value_ofNat_zero : (ofNat 0).value = 0 := by
  rw [ofNat, Decimal.ofRatio_zero Nat.one_pos, value_zero]

theorem isInfinite_one : (ofNat 1).isInfinite = false := by
  refine Bool.eq_false_iff.mpr fun infinite => ?_
  have reached := (isNearest_ofNat 1).isInfinite_iff.mp infinite
  rw [Nat.cast_one] at reached
  exact one_lt_limit.not_ge reached

/-- An integer below the limit becomes itself or an integer that has as many bits. -/
theorem exists_isInteger_ofNat {n : Nat} (below : (n : ℚ) < limit) :
    ∃ k : Nat, (ofNat n).IsInteger k ∧ (n = k ∨ 2 ^ 53 ≤ n ∧ 2 ^ 53 ≤ k) := by
  have near := isNearest_ofNat n
  have finite : (ofNat n).isInfinite = false :=
    Bool.eq_false_iff.mpr fun infinite => below.not_ge (near.isInfinite_iff.mp infinite)
  obtain ⟨k, integer⟩ := near.exists_isInteger finite
  refine ⟨k, integer, ?_⟩
  rcases Nat.le_total n (2 ^ 53) with short | long
  · obtain ⟨same, exact⟩ := exists_isInteger short
    rw [exact.eq_of_isNearest near] at integer
    exact .inl (Int.ofNat_inj.mp (exact.unique integer))
  · obtain ⟨power, exact⟩ := exists_isInteger (Nat.le_refl (2 ^ 53))
    have reached : power.value ≤ n := by
      rw [exact.2]
      exact_mod_cast long
    have kept := near.le_value reached
    rw [exact.2, integer.2] at kept
    exact .inr ⟨long, by exact_mod_cast kept⟩

end Magnitude

namespace Binary64

/-- The magnitude of a power is the one nearest to the exact power. -/
theorem exists_intPower {base : Int} (nonzero : base ≠ 0) (exponent : Int) :
    ∃ magnitude : Magnitude, magnitude.IsNearest ((base.natAbs : ℚ) ^ exponent) ∧
      intPower base exponent = signed (decide (base < 0) && exponent % 2 == 1) magnitude := by
  have positive : 1 ≤ base.natAbs := Int.natAbs_pos.mpr nonzero
  simp only [intPower]
  rcases positive.eq_or_lt with one | large
  · rw [← one, if_pos rfl, Nat.cast_one, one_zpow]
    exact ⟨_, Nat.cast_one (R := ℚ) ▸ Magnitude.isNearest_ofNat 1, rfl⟩
  rw [if_neg large.ne']
  obtain ⟨size, rfl | rfl⟩ := Int.eq_nat_or_neg exponent
  · refine ⟨.ofNat (base.natAbs ^ size), ?_, ?_⟩
    · rw [zpow_natCast, ← Nat.cast_pow]
      exact Magnitude.isNearest_ofNat _
    · by_cases high : 1100 < size
      · rw [if_pos (by omega), Magnitude.ofNat_pow_eq_infinity large high]
        rfl
      · rw [if_neg (by omega), if_neg (by omega), if_pos (by omega)]
        rfl
  · refine ⟨.ofRatio 1 (base.natAbs ^ size), ?_, ?_⟩
    · have near := Magnitude.isNearest_ofRatio 1 (Nat.pow_pos (n := size) positive)
      rwa [Nat.cast_one, one_div, Nat.cast_pow, ← zpow_natCast, ← zpow_neg] at near
    · by_cases low : 1100 < size
      · rw [if_neg (by omega), if_pos (by omega), Magnitude.ofRatio_pow_eq_zero large low]
        rfl
      · rw [if_neg (by omega), if_neg (by omega)]
        by_cases zero : size = 0
        · subst zero
          rfl
        · rw [if_neg (by omega), Int.neg_neg]
          rfl

/-- What an integer below the limit becomes: a number that is an integer as well, namely the same
one or one that has as many bits. -/
structure Becomes (n k : Int) : Prop where
  integral : (ofInt n).isIntegral = true
  truncated : (ofInt n).truncate = k
  value : (Magnitude.ofNat n.natAbs).value = k.natAbs
  close : n = k ∨ 2 ^ 53 ≤ n ∧ 2 ^ 53 ≤ k ∨ n ≤ -2 ^ 53 ∧ k ≤ -2 ^ 53

theorem exists_becomes {n : Int} (below : |(n : ℚ)| < Magnitude.limit) : ∃ k, Becomes n k := by
  rw [← Int.cast_abs, Int.abs_eq_natAbs, Int.cast_natCast] at below
  obtain ⟨k, integer, close⟩ := Magnitude.exists_isInteger_ofNat below
  refine ⟨if n < 0 then -k else k, ⟨?_, ?_, ?_, ?_⟩⟩
  · rw [ofInt_eq_signed, isIntegral_of_isInteger integer]
  · rw [ofInt_eq_signed, truncate_of_isInteger integer]
    simp only [decide_eq_true_eq]
  · rw [integer.2]
    split <;> simp
  · split <;> omega

theorem isNegative_ofInt (n : Int) : (ofInt n).isNegative = decide (n < 0) := by
  rw [ofInt_eq_signed]
  rfl

theorem Becomes.eq_zero_iff {n k : Int} (becomes : Becomes n k) : k = 0 ↔ n = 0 := by
  have close := becomes.close
  omega

/-- No other integer becomes zero, since one is nearer. -/
theorem isZero_ofInt (n : Int) : (ofInt n).isZero = true ↔ n = 0 := by
  constructor
  · intro zero
    by_contra nonzero
    obtain ⟨one, exact⟩ := Magnitude.exists_isInteger (Nat.one_le_two_pow (n := 53))
    rw [ofInt_eq_signed] at zero
    have none : Magnitude.ofNat n.natAbs = .zero := Magnitude.eq_of_rank (beq_iff_eq.mp zero)
    have positive : 1 ≤ n.natAbs := Int.natAbs_pos.mpr nonzero
    have reached : one.value ≤ (n.natAbs : ℚ) := by
      rw [exact.2, Int.cast_natCast]
      exact Nat.cast_le.mpr positive
    have kept := (Magnitude.isNearest_ofNat n.natAbs).le_value reached
    rw [none, Magnitude.value_zero, exact.2] at kept
    exact absurd kept (by norm_num)
  · rintro rfl
    rfl

/-- A power of zero is zero or one. -/
theorem exists_zeroPower {b : Int} (natural : 0 ≤ b) :
    ∃ magnitude : Magnitude, zeroPower false (ofInt b) = signed false magnitude ∧
      magnitude.isInfinite = false := by
  unfold zeroPower
  split
  · exact ⟨.ofNat 1, ofInt_eq_signed 1, Magnitude.isInfinite_one⟩
  · rw [isNegative_ofInt, decide_eq_false natural.not_gt, if_neg Bool.false_ne_true]
    exact ⟨.zero, rfl, rfl⟩

/-- A power of integers below the limit is infinite exactly if the power of what the base has
become is not below the limit. -/
theorem exists_finitePower {a b : Int} (base : |(a : ℚ)| < Magnitude.limit)
    (exponent : |(b : ℚ)| < Magnitude.limit) (defined : a ≠ 0 ∨ 0 ≤ b) :
    ∃ negative magnitude, finitePower (ofInt a) (ofInt b) = signed negative magnitude ∧
      (magnitude.isInfinite = true ↔
        Magnitude.limit ≤ (Magnitude.ofNat a.natAbs).value ^ b) := by
  obtain ⟨k, becomes⟩ := exists_becomes base
  obtain ⟨m, alsoBecomes⟩ := exists_becomes exponent
  unfold finitePower
  by_cases zero : a = 0
  · subst zero
    have natural : 0 ≤ b := defined.resolve_left fun nonzero => nonzero rfl
    obtain ⟨magnitude, power, finite⟩ := exists_zeroPower natural
    refine ⟨false, magnitude, power, iff_of_false (by rw [finite]; exact Bool.false_ne_true) ?_⟩
    rw [Int.natAbs_zero, Magnitude.value_ofNat_zero, not_le]
    exact Magnitude.zero_zpow_lt_limit b
  · have nonzero : k ≠ 0 := mt becomes.eq_zero_iff.mp zero
    rw [if_neg (mt (isZero_ofInt a).mp zero), becomes.integral, alsoBecomes.integral,
      Bool.and_self, if_pos rfl, becomes.truncated, alsoBecomes.truncated, becomes.value]
    obtain ⟨magnitude, near, power⟩ := exists_intPower nonzero m
    refine ⟨_, magnitude, power, near.isInfinite_iff.trans ?_⟩
    refine Magnitude.limit_le_zpow_congr (Int.natAbs_pos.mpr nonzero) ?_
    have close := alsoBecomes.close
    omega

end Binary64

end Calculator
