import Calculator.Evaluator.Integer
import Calculator.Proofs.Binary64.Integer
import Calculator.Proofs.Decimal.Nearest
import Calculator.Proofs.Parse.Completeness
import Calculator.Proofs.Token.Respacing

/-!
# Decimal literals as integers

The integer evaluator reads digits alone exactly. A literal with a point or an exponent has
become the nearest binary64 number before it asks whether this is an integer, so what the
literal denotes is lost where it lies between two such numbers
(`Evaluator.evaluate_decimal`): some integers become others, and some fractions integers.
-/

namespace Calculator

namespace IntegerOperation

variable {magnitude : Magnitude}

theorem isIntegral_magnitude (magnitude : Magnitude) :
    (Binary64.signed false magnitude).isIntegral =
      (!magnitude.isInfinite && (magnitude.units : Int) % unitsPerOne == 0) := rfl

theorem literal_of_isInteger {n : Int} (integer : magnitude.IsInteger n) :
    literal (.float (.signed false magnitude)) = .ok (.int n) := by
  rw [literal, Binary64.isIntegral_of_isInteger integer, if_pos rfl,
    Binary64.truncate_of_isInteger integer]
  rfl

theorem literal_of_not_isInteger (fractional : ∀ n, ¬ magnitude.IsInteger n) :
    literal (.float (.signed false magnitude)) =
      .error (.detailed (.notIntegral (.float (.signed false magnitude)))) := by
  have integral : (Binary64.signed false magnitude).isIntegral ≠ true := by
    intro integral
    simp only [isIntegral_magnitude, Bool.and_eq_true, Bool.not_eq_true', beq_iff_eq] at integral
    obtain ⟨n, units⟩ := Int.dvd_of_emod_eq_zero integral.2
    exact fractional n (Magnitude.isInteger_iff.mpr ⟨integral.1, by rw [units, mul_comm]⟩)
  rw [literal, if_neg integral]

end IntegerOperation

/-- A numeral that is the whole text is read as a literal. -/
theorem parse_numeral (config : Config) {numeral : Numeral} (grammatical : numeral.Grammatical) :
    parse config (String.ofList numeral.chars) =
      .ok (some (.leaf ⟨.number, String.ofList numeral.chars, some (.number numeral.value), 0, none,
        false⟩)) := by
  let lexeme : Lexeme := ⟨.number, numeral.chars, some numeral.value⟩
  have scanned : Token.ofSource config (String.ofList numeral.chars) =
      .ok [Token.ofLexeme 0 lexeme] := by
    rw [Token.ofSource, Token.ofText_numeral grammatical]
    rfl
  exact (Expression.parse_tokens config (.leaf (Token.ofLexeme 0 lexeme)) ⟨rfl, trivial⟩ trivial
    (Nat.zero_le _)).2 _ scanned

namespace Evaluator

/-- A literal that has become a magnitude is evaluated to it if it is an integer, and refused if
it is not. -/
theorem evaluate_magnitude {token : Token} {magnitude : Magnitude}
    (literal : token.isConstant = false)
    (value : token.value = some (.number (.float (.signed false magnitude)))) :
    (∃ n, magnitude.IsInteger n ∧ integer.evaluate (.leaf token) = .ok (.int n)) ∨
      (∀ n, ¬ magnitude.IsInteger n) ∧ ∃ detail,
        integer.evaluate (.leaf token) = .error (.problem (.domainError token detail)) := by
  have computed : integer.evaluate (.leaf token) =
      (IntegerOperation.literal (.float (.signed false magnitude))).mapError
        (blameLiteral token) := by
    rw [evaluate, leafValue, literal, if_neg Bool.false_ne_true, value]
    rfl
  rw [computed]
  by_cases integral : ∃ n, magnitude.IsInteger n
  · obtain ⟨n, integral⟩ := integral
    rw [IntegerOperation.literal_of_isInteger integral]
    exact .inl ⟨n, integral, rfl⟩
  · have fractional : ∀ n, ¬ magnitude.IsInteger n := fun n found => integral ⟨n, found⟩
    rw [IntegerOperation.literal_of_not_isInteger fractional]
    exact .inr ⟨fractional, _, rfl⟩

/-- A literal with a point or an exponent becomes the magnitude nearest to what it denotes. -/
theorem value_of_written (whole : List Char) {fraction : Option (List Char)}
    {exponent : Option Exponent} (written : ¬ (fraction = none ∧ exponent = none)) :
    (Numeral.decimal whole fraction exponent).value =
      .float (.signed false (Numeral.decimalValue whole fraction exponent).magnitude) := by
  cases fraction with
  | some places => rfl
  | none =>
      cases exponent with
      | some exponent => rfl
      | none => exact absurd ⟨rfl, rfl⟩ written

/-- Such a literal is read, and evaluated to that magnitude if it is an integer. -/
theorem evaluate_of_isInteger (config : Config) {whole : List Char}
    {fraction : Option (List Char)} {exponent : Option Exponent}
    (grammatical : (Numeral.decimal whole fraction exponent).Grammatical)
    (written : ¬ (fraction = none ∧ exponent = none)) {n : Int}
    (integral : (Numeral.decimalValue whole fraction exponent).magnitude.IsInteger n) :
    ∃ tree, parse config (String.ofList (Numeral.decimal whole fraction exponent).chars) =
      .ok (some tree) ∧ integer.evaluate tree = .ok (.int n) := by
  refine ⟨_, parse_numeral config grammatical, ?_⟩
  have value :=
    congrArg (fun number => some (Literal.number number)) (value_of_written whole written)
  rcases @evaluate_magnitude ⟨.number, _, _, 0, none, false⟩ _ rfl value with
    ⟨m, found, value⟩ | ⟨fractional, -⟩
  · rwa [found.unique integral] at value
  · exact absurd integral (fractional n)

section Settled

variable {q : ℚ} {nearest : Magnitude} {token : Token} {result : Except Failure Value}
  (settled : (∃ n, nearest.IsInteger n ∧ result = .ok (.int n)) ∨
    (∀ n, ¬ nearest.IsInteger n) ∧ ∃ detail,
      result = .error (.problem (.domainError token detail)))
include settled

/-- An integer is kept where it is a magnitude. -/
theorem ok_iff_of_settled {n : Int} (near : nearest.IsNearest n) :
    result = .ok (.int n) ↔ ∃ magnitude : Magnitude, magnitude.IsInteger n := by
  constructor
  · intro computed
    rcases settled with ⟨m, found, value⟩ | ⟨-, detail, value⟩
    · cases computed.symm.trans value
      exact ⟨nearest, found⟩
    · cases computed.symm.trans value
  · rintro ⟨magnitude, integral⟩
    obtain rfl : nearest = magnitude := integral.eq_of_isNearest near
    rcases settled with ⟨m, found, value⟩ | ⟨fractional, -⟩
    · rwa [found.unique integral] at value
    · exact absurd integral (fractional n)

/-- What is refused has no integer as its nearest magnitude. -/
theorem error_iff_of_settled :
    (∃ detail, result = .error (.problem (.domainError token detail))) ↔
      ∀ n, ¬ nearest.IsInteger n := by
  constructor
  · rintro ⟨detail, failed⟩
    rcases settled with ⟨m, -, value⟩ | ⟨fractional, -⟩
    · cases failed.symm.trans value
    · exact fractional
  · intro fractional
    rcases settled with ⟨m, found, -⟩ | ⟨-, failed⟩
    · exact absurd found (fractional m)
    · exact failed

end Settled

/-- **Literals.** A decimal literal denotes a rational number, and there is one binary64
magnitude nearest to it. Digits alone are evaluated to the natural number that they denote. Any
other literal is evaluated to its nearest magnitude if this is an integer and refused if it is
not. So an integer is read exactly if it is spelled in digits alone or is a binary64 number
itself, as all of them up to 53 bits are, and what is no integer is refused exactly if the
nearest magnitude is none, either. -/
theorem evaluate_decimal (config : Config) {whole : List Char} {fraction : Option (List Char)}
    {exponent : Option Exponent}
    (grammatical : (Numeral.decimal whole fraction exponent).Grammatical) :
    let numeral := Numeral.decimal whole fraction exponent
    let q := Numeral.denoted whole fraction exponent
    let token : Token :=
      ⟨.number, String.ofList numeral.chars, some (.number numeral.value), 0, none, false⟩
    let result := integer.evaluate (.leaf token)
    let refused := ∃ detail, result = .error (.problem (.domainError token detail))
    parse config token.lexeme = .ok (some (.leaf token)) ∧
    ∃ nearest : Magnitude, nearest.IsNearest q ∧
      ((fraction = none ∧ exponent = none ∧ ∃ n : Nat, q = n ∧ result = .ok (.int n)) ∨
        ¬ (fraction = none ∧ exponent = none) ∧
          ((∃ n, nearest.IsInteger n ∧ result = .ok (.int n)) ∨
            (∀ n, ¬ nearest.IsInteger n) ∧ refused)) ∧
      (∀ n : Int, q = n → (result = .ok (.int n) ↔
        (fraction = none ∧ exponent = none) ∨ ∃ magnitude : Magnitude, magnitude.IsInteger n)) ∧
      (∀ n : Int, q = n → n ≤ 2 ^ 53 → result = .ok (.int n)) ∧
      ((∀ n : Int, q ≠ n) → (refused ↔ ∀ n, ¬ nearest.IsInteger n)) := by
  intro numeral q token result refused
  refine ⟨parse_numeral config grammatical,
    (Numeral.decimalValue whole fraction exponent).magnitude,
    Numeral.isNearest_decimalValue whole fraction exponent, ?_⟩
  set nearest := (Numeral.decimalValue whole fraction exponent).magnitude
  have near : nearest.IsNearest q := Numeral.isNearest_decimalValue whole fraction exponent
  by_cases plain : fraction = none ∧ exponent = none
  · obtain ⟨rfl, rfl⟩ := plain
    have denoted : q = (Nat.ofDigitChars 10 whole 0 : Nat) := Numeral.denoted_digits whole
    have value : result = .ok (.int (Nat.ofDigitChars 10 whole 0 : Nat)) := rfl
    have exact (n : Int) (same : q = n) : result = .ok (.int n) := by
      rw [value, show n = (Nat.ofDigitChars 10 whole 0 : Nat) from mod_cast same.symm.trans denoted]
    refine ⟨.inl ⟨rfl, rfl, _, denoted, value⟩,
      fun n same => ⟨fun _ => .inl ⟨rfl, rfl⟩, fun _ => exact n same⟩,
      fun n same _ => exact n same, fun fractional => ?_⟩
    exact absurd denoted (fractional (Nat.ofDigitChars 10 whole 0 : Nat))
  · have value : token.value = some (.number (.float (.signed false nearest))) :=
      congrArg (fun number => some (Literal.number number)) (value_of_written whole plain)
    have settled := @evaluate_magnitude token nearest rfl value
    have kept (n : Int) (same : q = n) :
        result = .ok (.int n) ↔ ∃ magnitude : Magnitude, magnitude.IsInteger n :=
      ok_iff_of_settled settled (same ▸ near)
    refine ⟨.inr ⟨plain, settled⟩, fun n same => ?_, fun n same short => ?_,
      fun _ => error_iff_of_settled settled⟩
    · rw [kept n same, or_iff_right plain]
    · have nonneg : (0 : ℚ) ≤ n := same ▸ Numeral.denoted_nonneg whole fraction exponent
      have natural : ((n.toNat : Nat) : Int) = n := Int.toNat_of_nonneg (mod_cast nonneg)
      rw [kept n same, ← natural]
      exact Magnitude.exists_isInteger (by omega)

/-- In `2.50e3` point and exponent are harmless. -/
theorem evaluate_decimal_thousands :
    let numeral := Numeral.decimal ['2'] (some ['5', '0']) (some ⟨'e', none, ['3']⟩)
    let token : Token := ⟨.number, "2.50e3", some (.number numeral.value), 0, none, false⟩
    numeral.Grammatical ∧ parse .standard "2.50e3" = .ok (some (.leaf token)) ∧
      integer.evaluate (.leaf token) = .ok (.int 2500) := by
  intro numeral token
  have complete : Exponent.Written ⟨'e', none, ['3']⟩ :=
    ⟨.inl rfl, nofun, List.cons_ne_nil _ _, by simp⟩
  have grammatical : numeral.Grammatical :=
    .decimal (.inl (List.cons_ne_nil _ _)) (by simp)
      fun _ same => Option.some.inj same ▸ complete
  have denoted : Numeral.denoted ['2'] (some ['5', '0']) (some ⟨'e', none, ['3']⟩) =
      (2500 : Int) := by
    have digits : Nat.ofDigitChars 10 ['5', '0'] 0 = 50 := by decide
    have shift : Exponent.value ⟨'e', none, ['3']⟩ = 3 := by decide
    have whole : Nat.ofDigitChars 10 ['2'] 0 = 2 := by decide
    simp only [Numeral.denoted, Option.getD_some, Option.elim_some, whole, digits, shift]
    norm_num
  obtain ⟨read, nearest, -, -, -, exact, -⟩ := evaluate_decimal .standard grammatical
  exact ⟨grammatical, read, exact 2500 denoted (by decide)⟩

/-- Literals that are evaluated to something else than they denote: `1e23` to another integer,
and `1.00000000000000000001`, which is none, to one. -/
theorem misread_power_and_fraction :
    let power := Numeral.decimal ['1'] none (some ⟨'e', none, ['2', '3']⟩)
    let close := Numeral.decimal ['1'] (some "00000000000000000001".toList) none
    (power.Grammatical ∧ Numeral.denoted ['1'] none (some ⟨'e', none, ['2', '3']⟩) = 10 ^ 23 ∧
      ∃ tree, parse .standard "1e23" = .ok (some tree) ∧
        integer.evaluate tree = .ok (.int 99999999999999991611392)) ∧
    close.Grammatical ∧
      (∀ n : Int, Numeral.denoted ['1'] (some "00000000000000000001".toList) none ≠ n) ∧
      ∃ tree, parse .standard "1.00000000000000000001" = .ok (some tree) ∧
        integer.evaluate tree = .ok (.int 1) := by
  intro power close
  have complete : Exponent.Written ⟨'e', none, ['2', '3']⟩ :=
    ⟨.inl rfl, nofun, List.cons_ne_nil _ _, by simp⟩
  have powerRead : power.Grammatical :=
    .decimal (.inl (List.cons_ne_nil _ _)) (by simp) fun _ same => Option.some.inj same ▸ complete
  have closeRead : close.Grammatical :=
    .decimal (.inl (List.cons_ne_nil _ _)) (by simp) nofun
  have rounded : Magnitude.IsInteger
      (Numeral.decimalValue ['1'] none (some ⟨'e', none, ['2', '3']⟩)).magnitude
      99999999999999991611392 :=
    Magnitude.isInteger_iff.mpr (by decide +kernel)
  have lost : Magnitude.IsInteger
      (Numeral.decimalValue ['1'] (some "00000000000000000001".toList) none).magnitude 1 :=
    Magnitude.isInteger_iff.mpr (by decide +kernel)
  have one : Nat.ofDigitChars 10 ['1'] 0 = 1 := by decide
  refine ⟨⟨powerRead, ?_, evaluate_of_isInteger .standard powerRead (by simp) rounded⟩, closeRead,
    fun n same => ?_, evaluate_of_isInteger .standard closeRead (by simp) lost⟩
  · have shift : Exponent.value ⟨'e', none, ['2', '3']⟩ = 23 := by decide
    simp only [Numeral.denoted, Option.getD_none, Option.elim_some, one, shift,
      Nat.ofDigitChars_nil]
    norm_num
  · have places : Nat.ofDigitChars 10 "00000000000000000001".toList 0 = 1 := by decide
    have twenty : "00000000000000000001".toList.length = 20 := by decide
    simp only [Numeral.denoted, Option.getD_some, Option.elim_none, one, places, twenty,
      zpow_zero, mul_one] at same
    have scaled : (n : ℚ) * 10 ^ 20 = 10 ^ 20 + 1 := by
      rw [← same]
      norm_num
    have whole : n * 10 ^ 20 = 10 ^ 20 + 1 := by exact_mod_cast scaled
    omega

end Evaluator

end Calculator
