import Calculator.Proofs.Decimal.Reading
import Calculator.Proofs.Token.Numeral

/-!
# Written decimals are numerals

A decimal in the standard layout is the spelling of a numeral with the same value
(`Decimal.exists_numeral`), and so is the text of every finite number that is not
negative (`Binary64.exists_numeral`) and of every natural number
(`Numeral.written_toDigits`).
-/

namespace Calculator

theorem isDigit_of_mem_toDigits {n : Nat} : ∀ c ∈ Nat.toDigits 10 n, c.isDigit = true :=
  fun _ member => Nat.isDigit_of_mem_toDigits (by decide) (by decide) member

theorem isDigit_of_mem_zeros {count : Nat} : ∀ c ∈ List.replicate count '0', c.isDigit = true := by
  intro c member
  rw [List.eq_of_mem_replicate member]
  rfl

/-- The digits of a natural number are a numeral. -/
theorem Numeral.written_toDigits (n : Nat) : Numeral.Written (Nat.toDigits 10 n) none none :=
  ⟨Nat.toDigits_ne_nil, isDigit_of_mem_toDigits, by simp, by simp⟩

namespace Decimal

/-- The digits of an exponent, at least two of them. -/
theorem exists_padded (n : Nat) :
    ∃ padded, padded = (if (Nat.toDigits 10 n).length < 2 then '0' :: Nat.toDigits 10 n
        else Nat.toDigits 10 n) ∧
      padded ≠ [] ∧ (∀ c ∈ padded, c.isDigit = true) ∧ Nat.ofDigitChars 10 padded 0 = n := by
  refine ⟨_, rfl, ?_⟩
  split
  · refine ⟨List.cons_ne_nil _ _, fun c member => ?_, ?_⟩
    · rcases List.mem_cons.mp member with rfl | later
      · rfl
      · exact isDigit_of_mem_toDigits c later
    · rw [Nat.ofDigitChars_cons]
      exact Nat.ofDigitChars_ten_toDigits
  · exact ⟨Nat.toDigits_ne_nil, isDigit_of_mem_toDigits, Nat.ofDigitChars_ten_toDigits⟩

theorem exists_exponent (exponent : Int) :
    ∃ written : Exponent, written.Written ∧ written.chars = exponentText exponent ∧
      written.value = exponent := by
  obtain ⟨padded, same, nonempty, all, value⟩ := exists_padded exponent.natAbs
  refine ⟨⟨'e', some (if exponent < 0 then '-' else '+'), padded⟩,
    ⟨.inl rfl, ?_, nonempty, all⟩, ?_, ?_⟩
  · rintro sign ⟨⟩
    split
    · exact .inr rfl
    · exact .inl rfl
  · rw [Exponent.chars, exponentText, same]
    rfl
  · unfold Exponent.value
    simp only [value]
    by_cases negative : exponent < 0
    · simp only [negative, ↓reduceIte]
      omega
    · simp only [negative, ↓reduceIte, Option.some.injEq, Char.reduceEq]
      omega

/-- A numeral with the spelling and the value of a decimal. -/
def SpelledBy (decimal : Decimal) (spelling : List Char) : Prop :=
  ∃ whole fraction exponent, Numeral.Written whole fraction exponent ∧
    (Numeral.decimal whole fraction exponent).chars = spelling ∧
    (Numeral.decimal whole fraction exponent).value = .float decimal.toBinary64

variable {decimal : Decimal} {digits : List Char}

theorem value_places (whole places : List Char) :
    (Numeral.decimal whole (some places) none).value =
      .float (toBinary64 ⟨Nat.ofDigitChars 10 (whole ++ places) 0, -(places.length : Int)⟩) := by
  simp [Numeral.value, Numeral.decimalValue]

theorem value_exponent (whole : List Char) (fraction : Option (List Char)) (exponent : Exponent) :
    (Numeral.decimal whole fraction (some exponent)).value =
      .float (toBinary64 ⟨Nat.ofDigitChars 10 (whole ++ fraction.getD []) 0,
        exponent.value - ((fraction.getD []).length : Int)⟩) := by
  simp [Numeral.value, Numeral.decimalValue]

/-- Digits with zeros or a point put in. -/
theorem spelledBy_plainText (all : ∀ c ∈ digits, c.isDigit = true) (nonempty : digits ≠ [])
    (value : Nat.ofDigitChars 10 digits 0 = decimal.digits) (leading : Int)
    (place : leading = decimal.exponent + digits.length - 1) :
    SpelledBy decimal (plainText ['.', '0'] digits leading) := by
  have noExponent : ∀ exponent' ∈ (none : Option Exponent), exponent'.Written :=
    fun _ impossible => absurd impossible (Option.not_mem_none _)
  unfold plainText
  by_cases below : leading < 0
  · rw [if_pos below]
    refine ⟨['0'], some (List.replicate (-leading - 1).toNat '0' ++ digits), none,
      ⟨List.cons_ne_nil _ _, by simp, ?_, noExponent⟩, by simp [Numeral.chars], ?_⟩
    · rintro places ⟨⟩ c member
      rcases List.mem_append.mp member with zero | digit
      · exact isDigit_of_mem_zeros c zero
      · exact all c digit
    · have same : Nat.ofDigitChars 10
          (['0'] ++ (List.replicate (-leading - 1).toNat '0' ++ digits)) 0 =
          decimal.digits := by
        rw [Nat.ofDigitChars_append, Nat.ofDigitChars_append, Nat.ofDigitChars_replicate_zero]
        exact value
      have exponent : -((List.replicate (-leading - 1).toNat '0' ++ digits).length : Int) =
          decimal.exponent := by
        rw [List.length_append, List.length_replicate]
        omega
      rw [value_places, same, exponent]
  · rw [if_neg below]
    by_cases short : digits.length ≤ leading.toNat + 1
    · simp only [short, ↓reduceIte]
      refine ⟨digits ++ List.replicate (leading.toNat + 1 - digits.length) '0', some ['0'], none,
        ⟨by simp [nonempty], ?_, by simp, noExponent⟩, by simp [Numeral.chars], ?_⟩
      · intro c member
        rcases List.mem_append.mp member with digit | zero
        · exact all c digit
        · exact isDigit_of_mem_zeros c zero
      · have same : Nat.ofDigitChars 10
            (digits ++ List.replicate (leading.toNat + 1 - digits.length) '0' ++ ['0']) 0 =
              decimal.digits * 10 ^ (leading.toNat + 1 - digits.length + 1) := by
          have zeros : List.replicate (leading.toNat + 1 - digits.length) '0' ++ ['0'] =
              List.replicate (leading.toNat + 1 - digits.length + 1) '0' := by
            rw [List.replicate_succ']
          rw [List.append_assoc, zeros, Nat.ofDigitChars_append, Nat.ofDigitChars_replicate_zero,
            value, Nat.mul_comm]
        have exponent : -((['0'].length : Nat) : Int) +
            ((leading.toNat + 1 - digits.length + 1 : Nat) : Int) = decimal.exponent := by
          rw [List.length_singleton]
          omega
        rw [value_places, same, toBinary64, toBinary64, magnitude_mul_ten_pow, exponent]
    · simp only [short, ↓reduceIte]
      refine ⟨digits.take (leading.toNat + 1), some (digits.drop (leading.toNat + 1)), none,
        ⟨?_, fun c member => all c (List.mem_of_mem_take member), ?_, noExponent⟩,
        by simp [Numeral.chars], ?_⟩
      · simp [nonempty]
      · rintro places ⟨⟩ c member
        exact all c (List.mem_of_mem_drop member)
      · have exponent : -((digits.drop (leading.toNat + 1)).length : Int) = decimal.exponent := by
          rw [List.length_drop]
          omega
        rw [value_places, List.take_append_drop, value, exponent]

/-- Digits with a point and an exponent put in. -/
theorem spelledBy_scientific (all : ∀ c ∈ digits, c.isDigit = true) (nonempty : digits ≠ [])
    (value : Nat.ofDigitChars 10 digits 0 = decimal.digits) (leading : Int)
    (place : leading = decimal.exponent + digits.length - 1) :
    SpelledBy decimal (pointedText digits ++ exponentText leading) := by
  obtain ⟨exponent, written, spelling, same⟩ := exists_exponent leading
  have known : ∀ exponent' ∈ some exponent, exponent'.Written := by
    rintro exponent' ⟨⟩
    exact written
  rcases digits with _ | ⟨first, _ | ⟨second, others⟩⟩
  · exact absurd rfl nonempty
  · have last : exponent.value - (([] : List Char).length : Int) = decimal.exponent := by
      rw [same, place]
      simp
    refine ⟨[first], none, some exponent,
      ⟨nonempty, all, by simp, known⟩, ?_, ?_⟩
    · simp [Numeral.chars, pointedText, spelling]
    · rw [value_exponent]
      simp only [Option.getD_none, List.append_nil, value, last]
  · have last : exponent.value - ((second :: others).length : Int) = decimal.exponent := by
      rw [same, place]
      simp only [List.length_cons]
      omega
    refine ⟨[first], some (second :: others), some exponent,
      ⟨List.cons_ne_nil _ _, fun c member => all c ?_, ?_, known⟩, ?_, ?_⟩
    · rw [List.mem_singleton.mp member]
      exact List.mem_cons_self
    · rintro places ⟨⟩ c member
      exact all c (List.mem_cons_of_mem _ member)
    · simp [Numeral.chars, pointedText, spelling]
    · rw [value_exponent]
      simp only [Option.getD_some, List.cons_append, List.nil_append, value, last]

theorem spelledBy_text (decimal : Decimal) : SpelledBy decimal (decimal.text .standard) := by
  unfold text
  simp only
  have value : Nat.ofDigitChars 10 (Nat.toDigits 10 decimal.digits) 0 = decimal.digits :=
    Nat.ofDigitChars_ten_toDigits
  split
  · exact spelledBy_plainText isDigit_of_mem_toDigits Nat.toDigits_ne_nil value _ rfl
  · exact spelledBy_scientific isDigit_of_mem_toDigits Nat.toDigits_ne_nil value _ rfl

end Decimal

/-- The text of a finite number is the spelling of a numeral with that number as its
value. -/
theorem Binary64.exists_numeral {magnitude : Magnitude} (finite : magnitude.isInfinite = false) :
    ∃ whole fraction exponent, Numeral.Written whole fraction exponent ∧
      (Numeral.decimal whole fraction exponent).chars =
        (Binary64.signed false magnitude).text.toList ∧
      (Numeral.decimal whole fraction exponent).value =
        .float (Binary64.signed false magnitude) := by
  obtain ⟨whole, fraction, exponent, written, spelling, value⟩ :=
    Decimal.spelledBy_text (Decimal.shortest magnitude)
  refine ⟨whole, fraction, exponent, written, ?_, ?_⟩
  · rw [spelling]
    unfold Binary64.text Binary64.textIn Binary64.textBy
    simp [finite]
  · rw [value, Decimal.toBinary64, Decimal.magnitude_shortest]

end Calculator
