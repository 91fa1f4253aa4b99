import Calculator.Proofs.Token.Digits
import Calculator.Proofs.Token.Respacing
import Calculator.Proofs.Token.Respelling

/-!
# Integer literals

A natural number is spelled in base 10, 16, 8 or 2: its digits, with any number of zeros in
front of them and letters of either case, stand behind what announces the base
(`IsIntegerLiteral`). The numerals with an integer for their value are exactly these spellings
(`Numeral.exists_int_iff`). So a text is a single literal with an integer for its value exactly
if it spells this integer, and what is shown for an integer literal is read back
(`Token.ofText_integer`).
-/

namespace Calculator

/-- The bases of integer literals, each with what stands in front of its digits, in small
letters. -/
def literalBases : List (Nat × List Char) :=
  [(10, []), (16, ['0', 'x']), (8, ['0', 'o']), (2, ['0', 'b'])]

/-- A natural number spelled in a base: up to the case of letters, what announces the base, any
number of zeros, and the digits of the number. -/
def IsIntegerLiteralIn (base : Nat × List Char) (n : Nat) (text : List Char) : Prop :=
  ∃ zeros, text.map Char.toLower =
    base.2 ++ (List.replicate zeros '0' ++ Nat.toDigits base.1 n)

/-- A natural number spelled in one of the bases of integer literals. -/
def IsIntegerLiteral (n : Nat) (text : List Char) : Prop :=
  ∃ base ∈ literalBases, IsIntegerLiteralIn base n text

namespace Numeral

variable {base n : Nat} {marker : Char} {digits text : List Char}

/-- A marker of either case announces a base if the list of bases has it in small letters. -/
theorem baseOf?_eq_some_iff :
    baseOf? marker = some base ↔ (base, ['0', marker.toLower]) ∈ literalBases := by
  have caseless := apply_toLower baseOf? (by decide +kernel) marker
  constructor
  · intro announced
    unfold baseOf? at announced
    split_ifs at announced with sixteen eight two <;> obtain rfl := Option.some.inj announced
    · rcases sixteen with rfl | rfl <;> decide
    · rcases eight with rfl | rfl <;> decide
    · rcases two with rfl | rfl <;> decide
  · intro listed
    simp only [literalBases, List.mem_cons, Prod.mk.injEq, List.cons.injEq, true_and, and_true,
      reduceCtorEq, and_false, List.not_mem_nil, or_false, false_or] at listed
    rw [← caseless]
    rcases listed with ⟨rfl, small⟩ | ⟨rfl, small⟩ | ⟨rfl, small⟩ <;> rw [small] <;> rfl

theorem bounds_of_baseOf? (announced : baseOf? marker = some base) : 1 < base ∧ base ≤ 16 := by
  rcases base_of_baseOf? announced with rfl | rfl | rfl <;> decide

theorem grammatical_based_iff (announced : baseOf? marker = some base) :
    (based marker digits).Grammatical ↔ digits ≠ [] ∧ ∀ c ∈ digits, isDigitOf base c = true := by
  constructor
  · rintro ⟨known, nonempty, inside⟩
    obtain rfl := Option.some.inj (announced.symm.trans known)
    exact ⟨nonempty, fun c member => (mem_alphabet_iff announced c).mp (inside c member)⟩
  · rintro ⟨nonempty, all⟩
    exact .based announced nonempty fun c member =>
      (mem_alphabet_iff announced c).mpr (all c member)

theorem grammatical_digits_iff :
    (decimal digits none none).Grammatical ↔
      digits ≠ [] ∧ ∀ c ∈ digits, isDigitOf 10 c = true := by
  constructor
  · rintro (_ | ⟨nonempty, inside, -⟩)
    exact ⟨by simpa using nonempty, by simpa [isDigitOf_ten] using inside⟩
  · rintro ⟨nonempty, all⟩
    exact .decimal (.inl nonempty) (by simpa [isDigitOf_ten] using all) (by simp)

/-- Digits behind a marker spell the integer that is their value. -/
theorem isIntegerLiteralIn_based_iff (announced : baseOf? marker = some base) :
    IsIntegerLiteralIn (base, ['0', marker.toLower]) n ('0' :: marker :: digits) ↔
      (based marker digits).Grammatical ∧ (based marker digits).value = .int n := by
  obtain ⟨several, few⟩ := bounds_of_baseOf? announced
  have front (zeros : Nat) : ('0' :: marker :: digits).map Char.toLower =
      ['0', marker.toLower] ++ (List.replicate zeros '0' ++ Nat.toDigits base n) ↔
        digits.map Char.toLower = List.replicate zeros '0' ++ Nat.toDigits base n := by
    simp [show '0'.toLower = '0' from rfl]
  have value : (based marker digits).value = .int n ↔ natOfDigits base digits = n := by
    simp [Numeral.value, announced]
  simp only [IsIntegerLiteralIn, front]
  rw [← natOfDigits_eq_iff several few, grammatical_based_iff announced, value]

/-- Digits alone spell the integer that is their value in base ten. -/
theorem isIntegerLiteralIn_ten_iff :
    IsIntegerLiteralIn (10, []) n digits ↔
      (decimal digits none none).Grammatical ∧ (decimal digits none none).value = .int n := by
  simp only [IsIntegerLiteralIn, List.nil_append]
  rw [← natOfDigits_eq_iff (by decide) (by decide), grammatical_digits_iff]
  refine and_congr_right fun written => ?_
  rw [natOfDigits_ten (fun c member => isDigitOf_ten c ▸ written.2 c member)]
  simp [Numeral.value]

/-- What is spelled behind a marker starts with a zero and a marker of either case. -/
theorem exists_marker_of_isIntegerLiteralIn {small : Char}
    (spelled : IsIntegerLiteralIn (base, ['0', small]) n text) :
    ∃ marker digits, text = '0' :: marker :: digits ∧ marker.toLower = small := by
  obtain ⟨zeros, same⟩ := spelled
  rcases text with _ | ⟨first, _ | ⟨marker, digits⟩⟩
  · cases same
  · simp at same
  · simp only [List.map_cons, List.cons_append, List.cons.injEq] at same
    have zero : first = '0' := by
      have caseless := apply_toLower (fun c => decide (c = '0')) (by decide +kernel) first
      simpa [same.1] using caseless
    exact ⟨marker, digits, by rw [zero], same.2.1⟩

/-- The numerals with an integer for their value are the spellings of this integer. -/
theorem exists_int_iff :
    (∃ numeral : Numeral, numeral.Grammatical ∧ numeral.chars = text ∧ numeral.value = .int n) ↔
      IsIntegerLiteral n text := by
  constructor
  · rintro ⟨numeral, grammatical, rfl, value⟩
    cases grammatical with
    | @based marker base digits announced nonempty inside =>
        exact ⟨_, baseOf?_eq_some_iff.mp announced,
          (isIntegerLiteralIn_based_iff announced).mpr ⟨.based announced nonempty inside, value⟩⟩
    | @decimal whole fraction exponent nonempty inside complete =>
        have plain : fraction = none ∧ exponent = none := by
          rcases fraction with _ | places <;> rcases exponent with _ | exponent
          · exact ⟨rfl, rfl⟩
          all_goals cases value
        obtain ⟨rfl, rfl⟩ := plain
        have spelled := isIntegerLiteralIn_ten_iff.mpr ⟨.decimal nonempty inside complete, value⟩
        exact ⟨(10, []), List.mem_cons_self, by simpa [chars] using spelled⟩
  · rintro ⟨⟨base, front⟩, listed, spelled⟩
    have shape : (base, front) = (10, []) ∨ ∃ small, front = ['0', small] := by
      simp only [literalBases, List.mem_cons, List.not_mem_nil, or_false, Prod.mk.injEq] at listed
      rcases listed with ⟨rfl, rfl⟩ | ⟨-, rfl⟩ | ⟨-, rfl⟩ | ⟨-, rfl⟩ <;> simp
    rcases shape with ten | ⟨small, rfl⟩
    · rw [ten] at spelled
      obtain ⟨grammatical, value⟩ := isIntegerLiteralIn_ten_iff.mp spelled
      exact ⟨_, grammatical, by simp [chars], value⟩
    · obtain ⟨marker, digits, rfl, rfl⟩ := exists_marker_of_isIntegerLiteralIn spelled
      obtain ⟨grammatical, value⟩ :=
        (isIntegerLiteralIn_based_iff (baseOf?_eq_some_iff.mpr listed)).mp spelled
      exact ⟨_, grammatical, rfl, value⟩

end Numeral

namespace Token

/-- The token of a numeral that is the whole text. -/
def wholeText (text : String) (number : Number) : Token :=
  ⟨.number, text, some (.number number), 0, none, false⟩

theorem ofText_eq_wholeText_iff {text : String} {number : Number} :
    ofText text = .ok [wholeText text number] ↔
      ∃ numeral : Numeral, numeral.Grammatical ∧ numeral.chars = text.toList ∧
        numeral.value = number := by
  constructor
  · intro read
    have alone := standsAlone_of_scan 0 text.toList
    rw [ofText_eq_ok_iff.mp read] at alone
    obtain ⟨-, numeral, grammatical, spelling, value⟩ :=
      (alone _ List.mem_cons_self).exists_numeral rfl
    exact ⟨numeral, grammatical, spelling.symm, value⟩
  · rintro ⟨numeral, grammatical, spelling, rfl⟩
    have read := ofText_numeral grammatical
    rwa [spelling, ofLexeme, String.ofList_toList] at read

/-- What is shown for a natural number is read back. -/
theorem ofText_shown (n : Nat) :
    ofText (Number.text (.int n)) = .ok [wholeText (Number.text (.int n)) (.int n)] := by
  obtain ⟨nonempty, all, -, -⟩ := Numeral.written_toDigits n
  refine ofText_eq_wholeText_iff.mpr ⟨.decimal (Nat.toDigits 10 n) none none,
    .decimal (.inl nonempty) (by simpa using all) (by simp), ?_, ?_⟩
  · simp [Numeral.chars, Number.toList_text_int]
  · simp [Numeral.value]

/-- **Integer literals.** A text is a single literal with a natural number for its value exactly
if it spells this number in base 10, 16, 8 or 2, with any number of zeros in front of the digits
and letters of either case. What is shown for a literal with a natural number for its value is a
single literal with the same value. The literals of a text have no other integers for their
values, and each of them spells its value. -/
theorem ofText_integer :
    (∀ (text : String) (n : Nat),
      ofText text = .ok [wholeText text (.int n)] ↔ IsIntegerLiteral n text.toList) ∧
    (∀ (token : Token) (n : Nat), token.kind = .number →
      token.value = some (.number (.int n)) →
        ofText token.text = .ok [wholeText token.text (.int n)]) ∧
    ∀ source : String, ∀ token ∈ (scan 0 source.toList).1, ∀ i : Int,
      token.value = some (.number (.int i)) →
        token.kind = .number ∧ ∃ n : Nat, i = n ∧ IsIntegerLiteral n token.lexeme.toList ∧
          ofText token.text = .ok [wholeText token.text (.int i)] := by
  have shown (token : Token) (n : Nat) (kind : token.kind = .number)
      (value : token.value = some (.number (.int n))) :
      ofText token.text = .ok [wholeText token.text (.int n)] := by
    have text : token.text = Number.text (.int n) := by
      rw [Token.text, kind, value]
      rfl
    rw [text]
    exact ofText_shown n
  refine ⟨fun text n => ofText_eq_wholeText_iff.trans Numeral.exists_int_iff, shown, ?_⟩
  intro source token member i value
  obtain ⟨kind, numeral, grammatical, spelling, same⟩ :=
    (standsAlone_of_scan 0 source.toList token member).exists_numeral value
  rcases numeral.value_cases with ⟨n, natural⟩ | ⟨magnitude, real⟩
  · obtain rfl : (n : Int) = i := Number.int.inj (natural.symm.trans same)
    have spelled := Numeral.exists_int_iff.mp ⟨numeral, grammatical, spelling.symm, natural⟩
    exact ⟨kind, n, rfl, spelled, shown token n kind value⟩
  · cases real.symm.trans same

/-- In `0X1e5deg` the digits go on through `e5` and end at `g`; zeros in front of the digits count
for nothing. A literal made by hand shows its value, whatever its lexeme. -/
theorem ofText_integer_either_case :
    let found : Token := ⟨.number, "0X1e5de", some (.number (.int 124382)), 1, none, false⟩
    let made : Token := ⟨.number, "thirty", some (.number (.int 30)), -1, none, false⟩
    (IsIntegerLiteral 254 "0X00fE".toList ∧
        ofText "0X00fE" = .ok [wholeText "0X00fE" (.int 254)]) ∧
      (made.kind = .number ∧ made.value = some (.number (.int (30 : Nat))) ∧
        ofText "30" = .ok [wholeText "30" (.int 30)]) ∧
      found ∈ (scan 0 " 0X1e5deg".toList).1 ∧ found.value = some (.number (.int 124382)) ∧
        ofText "124382" = .ok [wholeText "124382" (.int 124382)] := by
  intro found made
  have spelled : IsIntegerLiteral 254 "0X00fE".toList :=
    ⟨(16, ['0', 'x']), by decide, 2, by decide⟩
  have scanned : scan 0 " 0X1e5deg".toList =
      ([found, ⟨.identifier, "g", none, 8, none, false⟩], none) := by cbv
  have member : found ∈ (scan 0 " 0X1e5deg".toList).1 := by
    rw [scanned]
    exact List.mem_cons_self
  obtain ⟨-, n, -, -, again⟩ := ofText_integer.2.2 " 0X1e5deg" found member 124382 rfl
  exact ⟨⟨spelled, (ofText_integer.1 "0X00fE" 254).mpr spelled⟩,
    ⟨rfl, rfl, ofText_integer.2.1 made 30 rfl rfl⟩, member, rfl, again⟩

end Token

end Calculator
