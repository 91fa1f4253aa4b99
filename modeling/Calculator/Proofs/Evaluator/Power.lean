import Calculator.Evaluator.Real
import Calculator.Parse
import Calculator.Proofs.Binary64.Power
import Calculator.Proofs.Evaluator.Integral

/-!
# Powers that overflow

Real powers are powers of binary64 numbers, so the base and the exponent become such numbers first.
A power of integers is infinite exactly if the exact power of what the base has become is not below
the limit, and then it is negative for odd powers of negative numbers
(`Evaluator.evaluate_power`). An operand beyond the limit cannot become a number and is treated like
a power that overflows.
-/

namespace Calculator

open Magnitude (limit)

namespace Value

variable {x : Value} {n : Int} (whole : x.scalar? = some (.int n))
include whole

theorem toBinary64_of_lt (below : |(n : ℚ)| < limit) : x.toBinary64 = .ok (.ofInt n) := by
  have finite := (Binary64.isFinite_ofInt n).mpr below
  simp only [toBinary64, whole, Scalar.toBinary64, Binary64.ofInt?, finite, if_true]

theorem toBinary64_of_le (beyond : limit ≤ |(n : ℚ)|) : x.toBinary64 = .error .undetailed := by
  have infinite := mt (Binary64.isFinite_ofInt n).mp beyond.not_gt
  simp only [toBinary64, whole, Scalar.toBinary64, Binary64.ofInt?, infinite]
  rfl

end Value

/-- A power of integers below the limit overflows, or it is a finite number. -/
theorem RealFunction.power_ofInt {a b : Int} (base : |(a : ℚ)| < limit)
    (exponent : |(b : ℚ)| < limit) (defined : a ≠ 0 ∨ 0 ≤ b) :
    let exact := (Magnitude.ofNat a.natAbs).value ^ b
    (limit ≤ exact ∧ power (.ofInt a) (.ofInt b) = .error .overflow) ∨
      exact < limit ∧ ∃ negative magnitude, magnitude.isInfinite = false ∧
        power (.ofInt a) (.ofInt b) = .ok (.signed negative magnitude) := by
  intro exact
  obtain ⟨negative, magnitude, computed, overflows⟩ :=
    Binary64.exists_finitePower base exponent defined
  unfold power
  rw [(Binary64.isFinite_ofInt a).mpr base, (Binary64.isFinite_ofInt b).mpr exponent,
    Bool.and_self, if_pos rfl, computed]
  rcases lt_or_ge exact limit with small | large
  · have finite : magnitude.isInfinite = false :=
      Bool.eq_false_iff.mpr (mt overflows.mp small.not_ge)
    refine .inr ⟨small, negative, magnitude, finite, ?_⟩
    simp only [Binary64.isNaN, Binary64.isInfinite, finite, Bool.false_eq_true, if_false]
  · have nonzero : a ≠ 0 := by
      rintro rfl
      refine large.not_gt (?_ : (Magnitude.ofNat 0).value ^ b < limit)
      rw [Magnitude.value_ofNat_zero]
      exact Magnitude.zero_zpow_lt_limit b
    refine .inl ⟨large, ?_⟩
    simp only [Binary64.isNaN, Binary64.isInfinite, overflows.mpr large, if_true,
      mt (Binary64.isZero_ofInt a).mp nonzero, Bool.false_eq_true, if_false]

/-- A power that is infinite exactly where the exact one is not below the limit, and then has its
sign. -/
structure IsSaturated (size : ℚ) (a b : Int) (power : Binary64) : Prop where
  number : power.isNaN = false
  infinite_iff : power.isInfinite = true ↔ limit ≤ size ^ b
  sign : power.isInfinite = true → power = .infinity (decide (a < 0 ∧ Odd b))

namespace RealOperation

section Integers

variable {x y : Value} {a b : Int} (base : x.scalar? = some (.int a))
  (exponent : y.scalar? = some (.int b))
include base exponent

omit base in
theorem isOddExponent_of_int (below : |(b : ℚ)| < limit) :
    isOddExponent y = .ok (decide (Odd b)) := by
  have value := Value.toBinary64_of_lt exponent below
  have parity : (b % 2 == 1) = decide (Odd b) := by
    rw [decide_eq_decide.mpr Int.odd_iff]
    rfl
  cases y with
  | text s => cases exponent
  | _ =>
      unfold isOddExponent
      simp only [value, bind, Except.bind, Value.int?, exponent, parity]

/-- The infinity that takes the place of a power is negative for odd powers of negative numbers. -/
theorem saturatedPower_of_int (below : a < 0 → |(b : ℚ)| < limit) :
    saturatedPower x y = .ok (.float (.infinity (decide (a < 0 ∧ Odd b)))) := by
  unfold saturatedPower
  rw [Value.relates_of_int base (n := 0) rfl, Relation.holds_less]
  by_cases negative : a < 0
  · have odd := isOddExponent_of_int exponent (below negative)
    simp only [negative, decide_true, bind, Except.bind, if_true, odd, true_and]
  · simp only [negative, decide_false, bind, Except.bind, Bool.false_eq_true, if_false, false_and]

/-- Whether an exponent beyond the limit is odd is not found out. -/
theorem saturatedPower_of_beyond (negative : a < 0) (beyond : limit ≤ |(b : ℚ)|) :
    saturatedPower x y = .error .undetailed := by
  have odd : isOddExponent y = .error .undetailed := by
    have value := Value.toBinary64_of_le exponent beyond
    cases y with
    | text s => cases exponent
    | _ =>
        unfold isOddExponent
        simp only [value, bind, Except.bind]
  unfold saturatedPower
  rw [Value.relates_of_int base (n := 0) rfl, Relation.holds_less]
  simp only [negative, decide_true, bind, Except.bind, if_true, odd]

/-- An operand beyond the limit is treated like an overflow. -/
theorem power_of_beyond (beyond : limit ≤ |(a : ℚ)| ∨ limit ≤ |(b : ℚ)|) :
    power x y = saturatedPower x y := by
  unfold power
  rcases lt_or_ge |(a : ℚ)| limit with small | large
  · rw [Value.toBinary64_of_lt base small,
      Value.toBinary64_of_le exponent (beyond.resolve_left small.not_ge)]
    rfl
  · rw [Value.toBinary64_of_le base large]
    rfl

theorem power_of_below (first : |(a : ℚ)| < limit) (second : |(b : ℚ)| < limit) :
    power x y = match RealFunction.power (.ofInt a) (.ofInt b) with
      | .ok result => .ok (.float result)
      | .error .overflow => saturatedPower x y
      | .error detail => .error (.detailed detail) := by
  unfold power
  rw [Value.toBinary64_of_lt base first, Value.toBinary64_of_lt exponent second]
  simp only [bind, Except.bind]
  rcases RealFunction.power (.ofInt a) (.ofInt b) with detail | result
  · cases detail <;> rfl
  · rfl

/-- A power of integers is infinite exactly if the exact power of the number nearest to the base is
not below the limit. -/
theorem power_of_int (defined : a ≠ 0 ∨ 0 ≤ b) (first : |(a : ℚ)| < limit ∨ 0 < b)
    (second : |(b : ℚ)| < limit ∨ 0 < b ∧ 1 < a) :
    ∃ result, power x y = .ok (.float result) ∧
      IsSaturated (Magnitude.ofNat a.natAbs).value a b result := by
  have saturates (large : limit ≤ (Magnitude.ofNat a.natAbs).value ^ b)
      (saturated : power x y = saturatedPower x y) :
      ∃ result, power x y = .ok (.float result) ∧
        IsSaturated (Magnitude.ofNat a.natAbs).value a b result := by
    have below : a < 0 → |(b : ℚ)| < limit := fun negative =>
      second.resolve_right fun above => absurd negative (by omega)
    exact ⟨_, saturated.trans (saturatedPower_of_int base exponent below), rfl,
      iff_of_true rfl large, fun _ => rfl⟩
  rcases lt_or_ge |(a : ℚ)| limit with small | long
  · rcases lt_or_ge |(b : ℚ)| limit with short | high
    · have computed := power_of_below base exponent small short
      rcases RealFunction.power_ofInt small short defined with
        ⟨large, overflow⟩ | ⟨low, negative, magnitude, finite, inside⟩
      · rw [overflow] at computed
        exact saturates large computed
      · rw [inside] at computed
        have bounded : (Binary64.signed negative magnitude).isInfinite ≠ true := by
          rw [Binary64.isInfinite, finite]
          exact Bool.false_ne_true
        exact ⟨_, computed, rfl, iff_of_false bounded low.not_ge,
          fun infinite => absurd infinite bounded⟩
    · obtain ⟨positive, above⟩ := second.resolve_left high.not_gt
      refine saturates ?_ (power_of_beyond base exponent (.inr high))
      rw [abs_of_pos (Int.cast_pos.mpr positive)] at high
      exact Magnitude.limit_le_value_zpow_of_le (by omega) high
  · refine saturates ?_ (power_of_beyond base exponent (.inl long))
    have positive : 0 < b := first.resolve_left long.not_gt
    rw [← Int.cast_abs, Int.abs_eq_natAbs, Int.cast_natCast] at long
    exact Magnitude.limit_le_value_zpow long positive

end Integers

end RealOperation

namespace Evaluator

section Operands

variable {operator : Token} (named : operator.lexeme = "^") {left right : Tree} {x y : Value}
  {a b : Int} (base : real.evaluate left = .ok x) (whole : x.scalar? = some (.int a))
  (exponent : real.evaluate right = .ok y) (alsoWhole : y.scalar? = some (.int b))
include named base exponent

theorem evaluate_power_eq :
    real.evaluate (.binary operator left right) =
      (inside (RealOperation.power x y)).mapError (blame operator) := by
  have known : real.operation? operator.lexeme = some (.binarySteps RealOperation.power) := by
    rw [named]
    rfl
  exact evaluate_binary known base exponent

include whole alsoWhole

/-- **Powers.** A power of integers has a value, unless zero has a negative exponent. The value is
infinite exactly if the exact power of the number nearest to the base is not below the limit; if the
base is a binary64 number itself, this is the power of the base. It is negative infinity for odd
powers of negative numbers and positive infinity for others. An operand beyond the limit is
admitted where it makes the power exceed the limit. -/
theorem evaluate_power (defined : a ≠ 0 ∨ 0 ≤ b) (first : |(a : ℚ)| < limit ∨ 0 < b)
    (second : |(b : ℚ)| < limit ∨ 0 < b ∧ 1 < a) :
    ∃ (nearest : Magnitude) (power : Binary64), nearest.IsNearest |(a : ℚ)| ∧
      real.evaluate (.binary operator left right) = .ok (.float power) ∧
      IsSaturated nearest.value a b power ∧
      ((∃ exact : Magnitude, exact.IsInteger |a|) →
        (power.isInfinite = true ↔ limit ≤ |(a : ℚ) ^ b|)) := by
  obtain ⟨power, computed, saturated⟩ :=
    RealOperation.power_of_int whole alsoWhole defined first second
  have near : (Magnitude.ofNat a.natAbs).IsNearest |(a : ℚ)| := by
    rw [← Int.cast_abs, Int.abs_eq_natAbs, Int.cast_natCast]
    exact Magnitude.isNearest_ofNat a.natAbs
  refine ⟨_, power, near, ?_, saturated, fun ⟨exact, integer⟩ => ?_⟩
  · rw [evaluate_power_eq named base exponent, computed]
    rfl
  · have same := integer.eq_of_isNearest (Int.cast_abs (R := ℚ) ▸ near)
    rw [saturated.infinite_iff, same, integer.2, Int.cast_abs, abs_zpow]

/-- An operand beyond the limit counts as an overflow whatever the exact power is: also powers of
one and powers with the exponent zero become infinite. For a negative base the exponent has to
become a number once more, to find out whether it is odd. -/
theorem evaluate_power_of_beyond (beyond : limit ≤ |(a : ℚ)| ∨ limit ≤ |(b : ℚ)|) :
    real.evaluate (.binary operator left right) =
      if a < 0 ∧ limit ≤ |(b : ℚ)| then
        .error (.problem (.domainError operator none))
      else .ok (.float (.infinity (decide (a < 0 ∧ Odd b)))) := by
  rw [evaluate_power_eq named base exponent,
    RealOperation.power_of_beyond whole alsoWhole beyond]
  split
  · rename_i lost
    rw [RealOperation.saturatedPower_of_beyond whole alsoWhole lost.1 lost.2]
    rfl
  · rename_i kept
    rw [RealOperation.saturatedPower_of_int whole alsoWhole
      fun negative => not_le.mp fun long => kept ⟨negative, long⟩]
    rfl

end Operands

theorem abs_lt_limit {n : Int} (small : |n| ≤ 2 ^ 64) : |(n : ℚ)| < limit := by
  refine lt_of_le_of_lt ?_ (Magnitude.two_pow_lt_limit (show 64 ≤ 1023 by decide))
  exact_mod_cast small

/-- Odd powers of -2 overflow to negative infinity, and `2^10` does not overflow. -/
theorem evaluate_power_negative_base :
    let number (spelling : String) (n : Int) (position : Int) : Tree :=
      .leaf ⟨.number, spelling, some (.number (.int n)), position, none, false⟩
    let power (position : Int) : Token := ⟨.operator, "^", none, position, some .infixed, false⟩
    let base : Tree :=
      .unary ⟨.operator, "negate", none, 1, some .prefixed, false⟩ (number "2" 2 2)
    let large : Tree := .binary (power 4) base (number "1025" 1025 5)
    let small : Tree := .binary (power 1) (number "2" 2 0) (number "10" 10 2)
    (parse .standard "(-2)^1025" = .ok (some large) ∧
      real.evaluate large = .ok (.float (.infinity true))) ∧
    parse .standard "2^10" = .ok (some small) ∧
      ∃ result, real.evaluate small = .ok (.float result) ∧ result.isInfinite = false := by
  intro number power base large small
  have largeRead : parse .standard "(-2)^1025" = .ok (some large) := by cbv
  have smallRead : parse .standard "2^10" = .ok (some small) := by cbv
  have negative : real.evaluate base = .ok (.int (-2)) := by rfl
  have two : ∃ exact : Magnitude, exact.IsInteger 2 :=
    Magnitude.exists_isInteger (show 2 ≤ 2 ^ 53 by decide)
  refine ⟨⟨largeRead, ?_⟩, smallRead, ?_⟩
  · obtain ⟨nearest, result, -, computed, saturated, exact⟩ := evaluate_power
      (show (power 4).lexeme = "^" from rfl) negative rfl
      (rfl : real.evaluate (number "1025" 1025 5) = .ok (.int 1025)) rfl
      (.inl (by decide)) (.inl (abs_lt_limit (by decide))) (.inl (abs_lt_limit (by decide)))
    have reached : limit ≤ |((-2 : Int) : ℚ) ^ (1025 : Int)| := by
      rw [abs_zpow]
      exact Magnitude.limit_le_zpow (by norm_num) (by decide)
    rw [saturated.sign ((exact two).mpr reached)] at computed
    exact computed
  · obtain ⟨nearest, result, -, computed, -, exact⟩ := evaluate_power
      (show (power 1).lexeme = "^" from rfl)
      (rfl : real.evaluate (number "2" 2 0) = .ok (.int 2)) rfl
      (rfl : real.evaluate (number "10" 10 2) = .ok (.int 10)) rfl
      (.inl (by decide)) (.inl (abs_lt_limit (by decide))) (.inl (abs_lt_limit (by decide)))
    refine ⟨result, computed, Bool.eq_false_iff.mpr fun infinite => ?_⟩
    have reached := (exact two).mp infinite
    have small : |((2 : Int) : ℚ) ^ (10 : Int)| < 2 ^ 53 := by norm_num
    exact (small.trans (Magnitude.two_pow_lt_limit (by decide))).not_ge reached

/-- The integer 18446744073709551000 is rounded up to a power of two, and so its power overflows. -/
theorem power_of_rounded_base_overflows :
    let number (spelling : String) (n : Int) (position : Int) : Tree :=
      .leaf ⟨.number, spelling, some (.number (.int n)), position, none, false⟩
    let power : Tree := .binary ⟨.operator, "^", none, 20, some .infixed, false⟩
      (number "18446744073709551000" 18446744073709551000 0) (number "16" 16 21)
    parse .standard "18446744073709551000^16" = .ok (some power) ∧
      real.evaluate power = .ok (.float (.infinity false)) ∧
      |((18446744073709551000 : Int) : ℚ) ^ (16 : Int)| < limit := by
  intro number power
  have read : parse .standard "18446744073709551000^16" = .ok (some power) := by cbv
  refine ⟨read, ?_, ?_⟩
  · have rounded : (Magnitude.ofNat 18446744073709551000).IsInteger (2 ^ 64) :=
      Magnitude.isInteger_iff.mpr (by decide +kernel)
    obtain ⟨result, computed, saturated⟩ := @RealOperation.power_of_int
      (.int 18446744073709551000) (.int 16) _ _ rfl rfl (.inl (by decide))
      (.inl (abs_lt_limit (by decide))) (.inl (abs_lt_limit (by decide)))
    have infinite : result.isInfinite = true := by
      rw [saturated.infinite_iff]
      change limit ≤ (Magnitude.ofNat 18446744073709551000).value ^ (16 : Int)
      rw [rounded.2, Int.cast_pow, Int.cast_ofNat, zpow_ofNat, ← pow_mul]
      exact Magnitude.limit_le_two_pow
    have value := @evaluate_power_eq ⟨.operator, "^", none, 20, some .infixed, false⟩ rfl
      (number "18446744073709551000" 18446744073709551000 0) (number "16" 16 21)
      (.int 18446744073709551000) (.int 16) rfl rfl
    rw [computed, saturated.sign infinite] at value
    exact value
  · have room : (18446744073709551000 : Int) ^ 16 + 2 ^ 970 < 2 ^ 1024 := by decide +kernel
    have cast := (Int.cast_lt (R := ℚ)).mpr room
    rw [Int.cast_add, Int.cast_pow, Int.cast_pow, Int.cast_pow, Int.cast_ofNat] at cast
    rw [zpow_ofNat, abs_of_pos (by positivity), limit, lt_sub_iff_add_lt]
    exact cast

end Evaluator

end Calculator
