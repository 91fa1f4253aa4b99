import Calculator.Proofs.Token.NumeralLongest

/-!
# Digits in a base

A letter has the same value as a digit in either case, and in small letters a digit is the
character of its value (`Numeral.digitValue?_eq_some_iff`). So reading digits inverts writing a
natural number in a base up to sixteen: digits have a number for their value exactly if they
are, in small letters, zeros in front of the digits of this number
(`Numeral.natOfDigits_eq_iff`).
-/

namespace Calculator

/-- What does not tell small letters from capitals among the ASCII characters does not tell
them apart at all. -/
theorem apply_toLower {α : Type} (f : Char → α)
    (listed : ∀ code : Fin 128, f (Char.ofNat code).toLower = f (Char.ofNat code)) (c : Char) :
    f c.toLower = f c := by
  by_cases ascii : c.toNat < 128
  · exact Numeral.forall_ascii (p := fun c => f c.toLower = f c) listed c ascii
  · have caseless : c.toLower = c := by
      refine dif_neg fun capital => ascii ?_
      exact Nat.lt_of_le_of_lt (UInt32.le_iff_toNat_le.mp capital.2) (by decide)
    rw [caseless]

/-- Digits of a number written down: a single one, or one more behind those of a smaller
number. -/
theorem toDigits_induction {base : Nat} (several : 1 < base) {motive : Nat → List Char → Prop}
    (single : ∀ digit < base, motive digit [digit.digitChar])
    (behind : ∀ n digit, digit < base → motive n (Nat.toDigits base n) →
      motive (base * n + digit) (Nat.toDigits base n ++ [digit.digitChar])) (n : Nat) :
    motive n (Nat.toDigits base n) := by
  induction n using Nat.strong_induction_on with
  | _ n ih =>
      rw [Nat.toDigits_eq_if several]
      split
      · rename_i small
        exact single n small
      · rename_i large
        have shorter : n / base < n := Nat.div_lt_self (by omega) several
        have last : n % base < base := Nat.mod_lt n (by omega)
        have whole := behind (n / base) (n % base) last (ih _ shorter)
        rwa [Nat.div_add_mod] at whole

namespace Numeral

variable {base n : Nat} {c : Char} {digits : List Char}

theorem digitValue?_toLower (c : Char) : digitValue? c.toLower = digitValue? c :=
  apply_toLower digitValue? (by decide +kernel) c

theorem isDigitOf_iff : isDigitOf base c = true ↔ ∃ value < base, digitValue? c = some value := by
  unfold isDigitOf
  cases digitValue? c <;> simp

/-- In small letters a digit is the character of its value. -/
theorem digitValue?_eq_some_iff {value : Nat} (small : value < 16) :
    digitValue? c = some value ↔ c.toLower = value.digitChar := by
  constructor
  · intro known
    have listed : ∀ c : Char, c.toNat < 128 → ∀ value ∈ digitValue? c,
        c.toLower = value.digitChar := forall_ascii (by decide +kernel)
    have ascii : c.toNat < 128 := @toNat_lt_of_isDigitOf (value + 1) c
      (isDigitOf_iff.mpr ⟨value, Nat.lt_succ_self value, known⟩)
    exact listed c ascii value known
  · intro written
    have listed : ∀ value : Fin 16, digitValue? (Nat.digitChar value) = some value.val := by decide
    rw [← digitValue?_toLower, written]
    exact listed ⟨value, small⟩

theorem natOfDigits_concat (digits : List Char) (c : Char) :
    natOfDigits base (digits ++ [c]) =
      base * natOfDigits base digits + (digitValue? c).getD 0 := by
  simp [natOfDigits]

theorem natOfDigits_map_toLower (digits : List Char) :
    natOfDigits base (digits.map Char.toLower) = natOfDigits base digits := by
  simp only [natOfDigits, List.foldl_map, digitValue?_toLower]

theorem natOfDigits_zeros (zeros : Nat) (digits : List Char) :
    natOfDigits base (List.replicate zeros '0' ++ digits) = natOfDigits base digits := by
  induction zeros with
  | zero => rfl
  | succ zeros ih =>
      rw [← ih, List.replicate_succ]
      rfl

theorem isDigitOf_ten (c : Char) : isDigitOf 10 c = c.isDigit := by
  unfold isDigitOf digitValue?
  by_cases digit : c.isDigit = true
  · have last : c.toNat ≤ 57 := by
      simp only [Char.isDigit, Bool.and_eq_true, decide_eq_true_eq] at digit
      exact UInt32.le_iff_toNat_le.mp digit.2
    have first : '0'.toNat = 48 := rfl
    simp only [digit, ↓reduceIte, decide_eq_true_eq]
    omega
  · -- The value of a letter is ten or more.
    simp only [digit, Bool.false_eq_true, ↓reduceIte]
    split_ifs <;> simp

/-- In base ten the two ways to add up digits agree. -/
theorem natOfDigits_ten (all : ∀ c ∈ digits, c.isDigit = true) :
    natOfDigits 10 digits = Nat.ofDigitChars 10 digits 0 := by
  refine List.foldl_ext _ _ _ fun value c member => ?_
  simp [digitValue?, all c member]

section Written

variable (several : 1 < base) (few : base ≤ 16)
include several few

theorem digitValue?_digitChar {value : Nat} (small : value < base) :
    digitValue? value.digitChar = some value := by
  have listed : ∀ value : Fin 16, (Nat.digitChar value).toLower = Nat.digitChar value := by decide
  exact (digitValue?_eq_some_iff (by omega)).mpr (listed ⟨value, by omega⟩)

theorem isDigitOf_of_mem_toDigits (n : Nat) :
    ∀ c ∈ Nat.toDigits base n, isDigitOf base c = true := by
  have written : ∀ value < base, isDigitOf base value.digitChar = true := fun value small =>
    isDigitOf_iff.mpr ⟨value, small, digitValue?_digitChar several few small⟩
  refine toDigits_induction (motive := fun _ digits => ∀ c ∈ digits, isDigitOf base c = true)
    several (fun value small => ?_) (fun n value small ih => ?_) n
  · exact List.forall_mem_singleton.mpr (written value small)
  · exact List.forall_mem_append.mpr ⟨ih, List.forall_mem_singleton.mpr (written value small)⟩

theorem natOfDigits_toDigits (n : Nat) : natOfDigits base (Nat.toDigits base n) = n := by
  refine toDigits_induction (motive := fun n digits => natOfDigits base digits = n)
    several (fun value small => ?_) (fun n value small ih => ?_) n
  · simp [natOfDigits, digitValue?_digitChar several few small]
  · rw [natOfDigits_concat, ih, digitValue?_digitChar several few small, Option.getD_some]

/-- In small letters digits are zeros in front of the digits of their value. -/
theorem exists_zeros (nonempty : digits ≠ []) (all : ∀ c ∈ digits, isDigitOf base c = true) :
    ∃ zeros, digits.map Char.toLower =
      List.replicate zeros '0' ++ Nat.toDigits base (natOfDigits base digits) := by
  induction digits using List.reverseRecOn with
  | nil => exact absurd rfl nonempty
  | append_singleton digits c ih =>
      obtain ⟨before, last⟩ := List.forall_mem_append.mp all
      obtain ⟨value, small, known⟩ := isDigitOf_iff.mp (last c List.mem_cons_self)
      have written : c.toLower = value.digitChar := (digitValue?_eq_some_iff (by omega)).mp known
      have single : Nat.toDigits base value = [value.digitChar] := Nat.toDigits_of_lt_base small
      rw [natOfDigits_concat, known, Option.getD_some, List.map_append, List.map_singleton, written,
        ← single]
      by_cases first : digits = []
      · subst first
        exact ⟨0, by simp [natOfDigits]⟩
      · obtain ⟨zeros, spelled⟩ := ih first before
        rw [spelled]
        rcases Nat.eq_zero_or_pos (natOfDigits base digits) with none | positive
        · -- All digits so far are zeros.
          refine ⟨zeros + 1, ?_⟩
          rw [none, Nat.toDigits_zero, Nat.mul_zero, Nat.zero_add, List.replicate_succ']
        · refine ⟨zeros, ?_⟩
          rw [List.append_assoc, Nat.toDigits_append_toDigits several positive small]

/-- Reading digits inverts writing a number in either case and with zeros in front. -/
theorem natOfDigits_eq_iff :
    (digits ≠ [] ∧ ∀ c ∈ digits, isDigitOf base c = true) ∧ natOfDigits base digits = n ↔
      ∃ zeros, digits.map Char.toLower = List.replicate zeros '0' ++ Nat.toDigits base n := by
  constructor
  · rintro ⟨⟨nonempty, all⟩, rfl⟩
    exact exists_zeros several few nonempty all
  · rintro ⟨zeros, spelled⟩
    refine ⟨⟨?_, fun c member => ?_⟩, ?_⟩
    · rintro rfl
      exact Nat.toDigits_ne_nil (List.append_eq_nil_iff.mp spelled.symm).2
    · have lower : c.toLower ∈ List.replicate zeros '0' ++ Nat.toDigits base n :=
        spelled ▸ List.mem_map_of_mem member
      have digit : isDigitOf base c.toLower = true := by
        rcases List.mem_append.mp lower with zero | digit
        · rw [List.eq_of_mem_replicate zero]
          exact isDigitOf_iff.mpr ⟨0, by omega, rfl⟩
        · exact isDigitOf_of_mem_toDigits several few n _ digit
      rwa [isDigitOf, digitValue?_toLower] at digit
    · rw [← natOfDigits_map_toLower, spelled, natOfDigits_zeros, natOfDigits_toDigits several few]

end Written

end Numeral

end Calculator
