import Calculator.Parse
import Calculator.Proofs.Evaluator.Integral

/-!
# Integer division

The integer evaluator divides in two ways: `//` and `%` round the quotient down, so that the
remainder takes the sign of the divisor, and `/` drops the fraction, so that the remainder takes
the sign of the dividend. The two quotients are the same unless the division leaves a remainder
and the signs differ; then they are neighbours (`Evaluator.evaluate_division`).
-/

namespace Calculator

section Quotients

variable {a b : Int}

theorem abs_fmod_lt (nonzero : b ≠ 0) : |a.fmod b| < |b| := by
  rcases lt_or_gt_of_ne nonzero with negative | positive
  · have low := Int.fmod_nonneg_of_pos (-a) (neg_pos.mpr negative)
    have high := Int.fmod_lt_of_pos (-a) (neg_pos.mpr negative)
    rw [Int.neg_fmod_neg] at low high
    rw [abs_of_nonpos (neg_nonneg.mp low), abs_of_neg negative]
    exact high
  · rw [abs_of_nonneg (Int.fmod_nonneg_of_pos a positive), abs_of_pos positive]
    exact Int.fmod_lt_of_pos a positive

/-- The remainder of the quotient that is rounded down has the sign of the divisor. -/
theorem fmod_eq_zero_or_sign (a : Int) (nonzero : b ≠ 0) :
    a.fmod b = 0 ∨ (a.fmod b).sign = b.sign := by
  rcases lt_or_gt_of_ne nonzero with negative | positive
  · have low := Int.fmod_nonneg_of_pos (-a) (neg_pos.mpr negative)
    rw [Int.neg_fmod_neg] at low
    rcases (neg_nonneg.mp low).eq_or_lt with zero | below
    · exact .inl zero
    · exact .inr ((Int.sign_eq_neg_one_of_neg below).trans
        (Int.sign_eq_neg_one_of_neg negative).symm)
  · rcases (Int.fmod_nonneg_of_pos a positive).eq_or_lt with zero | above
    · exact .inl zero.symm
    · exact .inr ((Int.sign_eq_one_of_pos above).trans (Int.sign_eq_one_of_pos positive).symm)

/-- A quotient whose fraction is dropped: its product with the divisor does not exceed the
dividend, and what is left is less than the divisor and on the side of the dividend. -/
structure Truncates (a b q : Int) : Prop where
  within : |q * b| ≤ |a|
  close : |a - q * b| < |b|
  side : a - q * b = 0 ∨ (a - q * b).sign = a.sign

theorem sub_tdiv_mul (a b : Int) : a - a.tdiv b * b = a.tmod b := by
  have split := Int.tdiv_mul_add_tmod a b
  omega

theorem truncates_tdiv (a : Int) (nonzero : b ≠ 0) : Truncates a b (a.tdiv b) := by
  refine ⟨?_, ?_, ?_⟩
  · have product : (a.natAbs / b.natAbs) * b.natAbs ≤ a.natAbs := Nat.div_mul_le_self _ _
    rw [Int.abs_eq_natAbs, Int.abs_eq_natAbs, Int.natAbs_mul, Int.natAbs_tdiv]
    exact_mod_cast product
  · have rest : a.natAbs % b.natAbs < b.natAbs := Nat.mod_lt _ (Int.natAbs_pos.mpr nonzero)
    rw [sub_tdiv_mul, Int.abs_eq_natAbs, Int.abs_eq_natAbs, Int.natAbs_tmod]
    exact_mod_cast rest
  · rw [sub_tdiv_mul, Int.sign_tmod]
    by_cases exact : b ∣ a
    · exact .inl (Int.tmod_eq_zero_of_dvd exact)
    · exact .inr (if_neg exact)

/-- What two such quotients leave is on one side and less than the divisor, so the difference of
the products is less than the divisor, too. -/
theorem Truncates.unique {q r : Int} (first : Truncates a b q) (second : Truncates a b r) :
    q = r := by
  have near : |(r - q) * b| < |b| := by
    have difference : (r - q) * b = (a - q * b) - (a - r * b) := by ring
    have bounds := abs_lt.mp first.close
    have others := abs_lt.mp second.close
    rw [difference, abs_lt]
    rcases lt_trichotomy a 0 with negative | rfl | positive
    · have sign := Int.sign_eq_neg_one_of_neg negative
      have below : a - q * b ≤ 0 := first.side.elim Eq.le fun same =>
        (Int.sign_eq_neg_one_iff_neg.mp (same.trans sign)).le
      have alsoBelow : a - r * b ≤ 0 := second.side.elim Eq.le fun same =>
        (Int.sign_eq_neg_one_iff_neg.mp (same.trans sign)).le
      omega
    · have zero : 0 - q * b = 0 := first.side.elim id Int.eq_zero_of_sign_eq_zero
      have alsoZero : 0 - r * b = 0 := second.side.elim id Int.eq_zero_of_sign_eq_zero
      omega
    · have sign := Int.sign_eq_one_of_pos positive
      have above : 0 ≤ a - q * b := first.side.elim Eq.ge fun same =>
        (Int.sign_eq_one_iff_pos.mp (same.trans sign)).le
      have alsoAbove : 0 ≤ a - r * b := second.side.elim Eq.ge fun same =>
        (Int.sign_eq_one_iff_pos.mp (same.trans sign)).le
      omega
  have zero : (r - q) * b = 0 :=
    Int.eq_zero_of_abs_lt_dvd ((abs_dvd b _).mpr (dvd_mul_left b _)) near
  have nonzero : b ≠ 0 := by
    rintro rfl
    exact absurd near (by simp)
  exact (sub_eq_zero.mp ((mul_eq_zero.mp zero).resolve_right nonzero)).symm

theorem truncates_iff (nonzero : b ≠ 0) (q : Int) : Truncates a b q ↔ q = a.tdiv b :=
  ⟨fun truncates => truncates.unique (truncates_tdiv a nonzero),
    fun same => same ▸ truncates_tdiv a nonzero⟩

/-- Both quotients are the same unless there is a remainder and the signs differ. -/
theorem tdiv_eq_fdiv_add (a : Int) (nonzero : b ≠ 0) :
    a.tdiv b = if a.fmod b ≠ 0 ∧ a.sign = -b.sign then a.fdiv b + 1 else a.fdiv b := by
  by_cases exact : b ∣ a
  · simp [Int.tdiv_eq_fdiv, exact, Int.fmod_eq_zero_of_dvd exact]
  · have rest : a.fmod b ≠ 0 := fun zero => exact (Int.dvd_of_fmod_eq_zero zero)
    have dividend : a ≠ 0 := fun zero => exact (zero ▸ dvd_zero b)
    rw [Int.tdiv_eq_fdiv, if_neg exact]
    rcases lt_or_gt_of_ne dividend with first | first <;>
      rcases lt_or_gt_of_ne nonzero with second | second <;>
      simp [rest, Int.sign_eq_neg_one_of_neg, Int.sign_eq_one_of_pos, first, second, first.le,
        second.le, first.not_ge, second.not_ge]

end Quotients

namespace Evaluator

/-- **Two divisions.** With a divisor other than zero, `//` and `%` give the quotient that is
rounded down and its remainder, which is less than the divisor and has its sign, and `mod` gives
this remainder, too. `/` gives the only quotient that drops the fraction. It is one more than the
other one if the division leaves a remainder and the signs differ, and otherwise the same. All
four operators refuse to divide by zero. -/
theorem evaluate_division {left right : Tree} {x y : Value} {a b : Int} (operator comma : Token)
    (first : integer.evaluate left = .ok x) (dividend : x.scalar? = some (.int a))
    (second : integer.evaluate right = .ok y) (divisor : y.scalar? = some (.int b)) :
    let named (name : String) : Token := { operator with lexeme := name }
    let between (name : String) : Tree := .binary (named name) left right
    let remainder : Tree :=
      .unary (named "mod") (.binary { comma with lexeme := "," } left right)
    (b ≠ 0 → ∃ truncated floored rest : Int,
      integer.evaluate (between "/") = .ok (.int truncated) ∧
      integer.evaluate (between "//") = .ok (.int floored) ∧
      integer.evaluate (between "%") = .ok (.int rest) ∧
      integer.evaluate remainder = .ok (.int rest) ∧
      a = floored * b + rest ∧ |rest| < |b| ∧ (rest = 0 ∨ rest.sign = b.sign) ∧
      (∀ q, Truncates a b q ↔ q = truncated) ∧
      truncated = if rest ≠ 0 ∧ a.sign = -b.sign then floored + 1 else floored) ∧
    (b = 0 →
      (∀ name ∈ ["/", "//", "%"], integer.evaluate (between name) =
        .error (.problem (.divisionByZero (named name)))) ∧
      integer.evaluate remainder = .error (.problem (.divisionByZero (named "mod")))) := by
  intro named between remainder
  have computed (name : String) (operation : Operation)
      (known : integer.operation? name = some operation) :
      integer.evaluate (between name) = (operation [x, y]).mapError (blame (named name)) :=
    evaluate_binary (show integer.operation? (named name).lexeme = some operation from known)
      first second
  have truncating : integer.evaluate (between "/") =
      (inside (IntegerOperation.divide x y)).mapError (blame (named "/")) :=
    computed "/" (.binarySteps IntegerOperation.divide) rfl
  have flooring : integer.evaluate (between "//") =
      (x.floorDiv y).mapError (blame (named "//")) := computed "//" (.binary Value.floorDiv) rfl
  have leaving : integer.evaluate (between "%") = (x.mod y).mapError (blame (named "%")) :=
    computed "%" (.binary Value.mod) rfl
  have single : ∀ value ∈ [x, y], ¬ ValueLike.IsArguments value :=
    List.forall_mem_cons.mpr ⟨Value.not_isArguments dividend,
      List.forall_mem_singleton.mpr (Value.not_isArguments divisor)⟩
  have alsoLeaving : integer.evaluate remainder = (x.mod y).mapError (blame (named "mod")) :=
    @evaluate_chain _ _ _ _ integer rfl (named "mod") (.binary Value.mod) rfl
      (show "mod" ≠ "," by decide) left [({ comma with lexeme := "," }, right)]
      (List.forall_mem_singleton.mpr rfl) [x, y] single (.cons first (.cons second .nil))
  rw [IntegerOperation.divide_of_int dividend divisor] at truncating
  rw [Value.floorDiv_of_int dividend divisor] at flooring
  rw [Value.mod_of_int dividend divisor] at leaving alsoLeaving
  constructor
  · intro nonzero
    rw [if_neg nonzero] at truncating flooring leaving alsoLeaving
    exact ⟨a.tdiv b, a.fdiv b, a.fmod b, truncating, flooring, leaving, alsoLeaving,
      (Int.fdiv_mul_add_fmod a b).symm, abs_fmod_lt nonzero, fmod_eq_zero_or_sign a nonzero,
      truncates_iff nonzero, tdiv_eq_fdiv_add a nonzero⟩
  · intro zero
    rw [if_pos zero] at truncating flooring leaving alsoLeaving
    refine ⟨?_, alsoLeaving⟩
    simp only [List.forall_mem_cons]
    exact ⟨truncating, flooring, leaving, List.forall_mem_nil _⟩

/-- The quotient of -7 and 2 is -4 where it is rounded down and -3 where the fraction is dropped. -/
theorem evaluate_division_negative_dividend :
    let number (spelling : String) (n : Int) : Tree :=
      .leaf ⟨.number, spelling, some (.number (.int n)), -1, none, false⟩
    let operator (name : String) : Token := ⟨.operator, name, none, 2, some .infixed, false⟩
    let seven : Tree := .unary ⟨.operator, "negate", none, 0, some .prefixed, false⟩ (number "7" 7)
    (integer.evaluate seven = .ok (.int (-7)) ∧ integer.evaluate (number "2" 2) = .ok (.int 2) ∧
      integer.evaluate (.binary (operator "/") seven (number "2" 2)) = .ok (.int (-3)) ∧
      integer.evaluate (.binary (operator "//") seven (number "2" 2)) = .ok (.int (-4)) ∧
      integer.evaluate (.binary (operator "%") seven (number "2" 2)) = .ok (.int 1)) ∧
    integer.evaluate (number "0" 0) = .ok (.int 0) ∧
      integer.evaluate (.binary (operator "/") seven (number "0" 0)) =
        .error (.problem (.divisionByZero (operator "/"))) := by
  intro number operator seven
  have dividend : integer.evaluate seven = .ok (.int (-7)) := by rfl
  have two : integer.evaluate (number "2" 2) = .ok (.int 2) := by rfl
  have zero : integer.evaluate (number "0" 0) = .ok (.int 0) := by rfl
  have odd : integer.evaluate (.binary (operator "%") seven (number "2" 2)) = .ok (.int 1) := by
    cbv
  obtain ⟨halves, -⟩ := evaluate_division (operator "") (operator ",") dividend rfl two rfl
  obtain ⟨truncated, floored, rest, truncating, flooring, leaving, -, split, -, -, -, apart⟩ :=
    halves (by decide)
  obtain rfl : rest = 1 := by
    cases leaving.symm.trans odd
    rfl
  obtain rfl : floored = -4 := by omega
  obtain rfl : truncated = -3 := apart
  obtain ⟨-, refused⟩ := evaluate_division (operator "") (operator ",") dividend rfl zero rfl
  exact ⟨⟨dividend, two, truncating, flooring, leaving⟩, zero,
    (refused rfl).1 "/" List.mem_cons_self⟩

end Evaluator

end Calculator
