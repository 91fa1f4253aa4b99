import Calculator.Proofs.Decimal.Spelling
import Calculator.Proofs.Precedence
import Calculator.Proofs.Token.Pieces

/-!
# Tokens written and read again

What the postfix evaluator writes for a token is a lexeme that stands alone
(`Token.stands_respelled`). It is read as the same token, up to its place and the
spelling of literals. The exception is a literal that went to infinity: it is
written `inf`, which is the name of a function (`Token.echo_of_overflows`).
-/

namespace Calculator

/-- Operators between and behind operands are spelled with symbols. -/
theorem mem_operatorSpellings {text : String}
    (known : Operator.isInfixed text = true ∨ Operator.isSuffixed text = true) :
    text.toList ∈ operatorSpellings := by
  have rows : ∀ row ∈ Operator.table,
      row.1.infixedPrecedence?.isSome = true ∨ row.1.suffixedPrecedence?.isSome = true →
        row.2.2.toList ∈ operatorSpellings := by decide
  unfold Operator.isInfixed Operator.isSuffixed Operator.ofText at known
  split at known
  · rename_i row found
    have same : row.2.2 = text := by simpa using List.find?_some found
    exact same ▸ rows row (List.mem_of_find?_eq_some found) known
  · rcases known with impossible | impossible <;> cases impossible

theorem isName_eq_false_of_known {text : String}
    (known : Operator.isInfixed text = true ∨ Operator.isSuffixed text = true) :
    isName text = false := by
  rw [Bool.eq_false_iff]
  intro name
  rw [Operator.isInfixed_of_isName name, Operator.isSuffixed_of_isName name] at known
  rcases known with impossible | impossible <;> cases impossible

/-- The value of a numeral is a natural number or a number that is not negative. -/
theorem Numeral.value_cases (numeral : Numeral) :
    (∃ n : Nat, numeral.value = .int n) ∨
      ∃ magnitude, numeral.value = .float (.signed false magnitude) := by
  cases numeral with
  | based marker digits => exact .inl ⟨_, rfl⟩
  | decimal whole fraction exponent =>
      cases fraction with
      | some places => exact .inr ⟨_, rfl⟩
      | none =>
          cases exponent with
          | some exponent => exact .inr ⟨_, rfl⟩
          | none => exact .inl ⟨_, rfl⟩

/-- A natural number is shown by its digits. -/
theorem Number.toList_text_int (n : Nat) : (Number.text (.int n)).toList = Nat.toDigits 10 n :=
  Nat.toList_repr

namespace Token

/-- A literal that went to infinity. -/
def Overflows (token : Token) : Prop := token.value = some (.number (.float (.infinity false)))

instance : DecidablePred Overflows := fun _ => inferInstanceAs (Decidable (_ = _))

theorem not_overflows_of_valueless {token : Token} (valueless : token.value = none) :
    ¬ token.Overflows := by
  rw [Overflows, valueless]
  exact (Option.some_ne_none _).symm

/-- What is written for a token in postfix order. -/
def respelled (token : Token) : Lexeme :=
  match token.value with
  | some (.number (.int n)) => ⟨.number, (toString n).toList, some (.int n)⟩
  | some (.number (.float x)) =>
    if x.isFinite then ⟨.number, x.text.toList, some (.float x)⟩
    else ⟨.identifier, x.text.toList, none⟩
  | _ => ⟨if isName token.lexeme then .identifier else .operator, token.lexeme.toList, none⟩

/-- The token that is read where a token was written. -/
def echo (config : Config) (token : Token) : Token := (ofLexeme 0 token.respelled).classify config

/-- A leaf of a tree: a literal or a constant. -/
def IsLeafOf (config : Config) (token : Token) : Prop :=
  token.IsLiteral ∨ token.IsConstantOf config

/-- An operator over one operand: a name that is no constant, or a suffix. -/
structure TakesOne (config : Config) (token : Token) : Prop where
  kind : token.kind = .operator
  valueless : token.value = none
  operative : token.isConstant = false
  place : token.fixity = some .prefixed ∧ isName token.lexeme = true ∧
      config.isConstant token.lexeme = false ∨
    token.fixity = some .suffixed ∧ Operator.isSuffixed token.lexeme = true

/-- An operator between two operands. -/
structure TakesTwo (token : Token) : Prop where
  kind : token.kind = .operator
  valueless : token.value = none
  operative : token.isConstant = false
  fixity : token.fixity = some .infixed
  known : Operator.isInfixed token.lexeme = true

variable {config : Config} {token : Token}

theorem chars_respelled_number {number : Number} (value : token.value = some (.number number)) :
    token.respelled.chars = number.text.toList := by
  rw [respelled, value]
  cases number with
  | int n => rfl
  | float x =>
      by_cases finite : x.isFinite = true
      · simp only [finite, ↓reduceIte, Number.text]
      · simp only [finite, Bool.false_eq_true, ↓reduceIte, Number.text]

theorem respelled_of_int {n : Nat} (value : token.value = some (.number (.int n))) :
    token.respelled = ⟨.number, Nat.toDigits 10 n, some (.int n)⟩ := by
  rw [respelled, value, ← Number.toList_text_int]
  rfl

theorem respelled_of_float {magnitude : Magnitude} (finite : magnitude.isInfinite = false)
    (value : token.value = some (.number (.float (.signed false magnitude)))) :
    token.respelled = ⟨.number, (Binary64.signed false magnitude).text.toList,
      some (.float (.signed false magnitude))⟩ := by
  rw [respelled, value]
  simp [Binary64.isFinite, finite]

theorem classify_unplaced (config : Config) (token : Token) :
    (token.classify config).unplaced = token.unplaced.classify config := by
  unfold classify unplaced
  dsimp only
  split
  · split <;> rfl
  · rfl

theorem respelled_of_overflows (exceeds : token.Overflows) :
    token.respelled = ⟨.identifier, "inf".toList, none⟩ := by
  rw [respelled, exceeds]
  rfl

theorem respelled_of_valueless (valueless : token.value = none) :
    token.respelled =
      ⟨if isName token.lexeme then .identifier else .operator, token.lexeme.toList, none⟩ := by
  rw [respelled, valueless]

theorem IsLiteral.cases_value (role : token.IsLiteral) :
    token.Overflows ∨ (∃ n : Nat, token.value = some (.number (.int n))) ∨
      ∃ magnitude : Magnitude, magnitude.isInfinite = false ∧
        token.value = some (.number (.float (.signed false magnitude))) := by
  obtain ⟨-, -, -, numeral, value⟩ := role
  rcases numeral.value_cases with ⟨n, natural⟩ | ⟨magnitude, real⟩
  · rw [natural] at value
    exact .inr (.inl ⟨n, value⟩)
  · rw [real] at value
    by_cases infinite : magnitude.isInfinite = true
    · rw [Magnitude.isInfinite_iff.mp infinite] at value
      exact .inl value
    · exact .inr (.inr ⟨magnitude, Bool.eq_false_iff.mpr infinite, value⟩)

/-- A literal that did not go to infinity is written as a decimal numeral with its value. -/
theorem IsLiteral.exists_respelled (role : token.IsLiteral) (finite : ¬ token.Overflows) :
    ∃ whole fraction exponent, Numeral.Written whole fraction exponent ∧
      token.respelled = ⟨.number, (Numeral.decimal whole fraction exponent).chars,
        some (Numeral.decimal whole fraction exponent).value⟩ ∧
      token.value = some (.number (Numeral.decimal whole fraction exponent).value) := by
  rcases role.cases_value with exceeds | ⟨n, value⟩ | ⟨magnitude, small, value⟩
  · exact absurd exceeds finite
  · refine ⟨_, none, none, Numeral.written_toDigits n, ?_, ?_⟩
    · rw [respelled_of_int value]
      simp [Numeral.chars, Numeral.value]
    · simp [Numeral.value, value]
  · obtain ⟨whole, fraction, exponent, written, spelling, same⟩ := Binary64.exists_numeral small
    refine ⟨whole, fraction, exponent, written, ?_, ?_⟩
    · rw [respelled_of_float small value, spelling, same]
    · rw [same, value]

theorem stands_respelled_literal (role : token.IsLiteral) : token.respelled.Stands := by
  by_cases exceeds : token.Overflows
  · rw [respelled_of_overflows exceeds]
    apply Lexeme.stands_name
    decide
  · obtain ⟨whole, fraction, exponent, written, same, -⟩ := role.exists_respelled exceeds
    rw [same]
    exact Lexeme.stands_numeral written

theorem stands_respelled_name (valueless : token.value = none)
    (name : isName token.lexeme = true) : token.respelled.Stands := by
  rw [respelled_of_valueless valueless, if_pos name]
  apply Lexeme.stands_name
  rw [String.ofList_toList]
  exact name

theorem stands_respelled_symbol (valueless : token.value = none)
    (known : Operator.isInfixed token.lexeme = true ∨ Operator.isSuffixed token.lexeme = true) :
    token.respelled.Stands := by
  rw [respelled_of_valueless valueless, isName_eq_false_of_known known,
    if_neg Bool.false_ne_true]
  exact Lexeme.stands_operator (mem_operatorSpellings known)

/-- What is written for a token is read again. -/
theorem stands_respelled
    (role : token.IsLeafOf config ∨ token.TakesOne config ∨ token.TakesTwo) :
    token.respelled.Stands := by
  rcases role with (literal | constant) | one | two
  · exact stands_respelled_literal literal
  · exact stands_respelled_name constant.2.2.2.1 constant.2.2.2.2.1
  · rcases one.place with ⟨-, name, -⟩ | ⟨-, suffix⟩
    · exact stands_respelled_name one.valueless name
    · exact stands_respelled_symbol one.valueless (.inr suffix)
  · exact stands_respelled_symbol two.valueless (.inl two.known)

theorem kind_echo_ne_bracket (token : Token) : (token.echo config).kind ≠ .bracket := by
  have written : token.respelled.kind ≠ .bracket := by
    unfold respelled
    split
    · simp
    · split <;> simp
    · dsimp only
      split <;> simp
  unfold echo classify
  split
  · split <;> simp
  · exact written

/-- What a token means: everything but its place and the spelling of its value. -/
def meaning (token : Token) : Token :=
  { token.unplaced with lexeme := if token.value.isSome then "" else token.lexeme }

theorem meaning_unplaced (token : Token) : token.unplaced.meaning = token.meaning := rfl

theorem echo_of_literal (role : token.IsLiteral) (finite : ¬ token.Overflows) :
    (token.echo config).kind = .number ∧ (token.echo config).meaning = token.meaning := by
  have values := role.cases_value
  obtain ⟨kind, fixity, operative, -⟩ := role
  rcases values with exceeds | ⟨n, value⟩ | ⟨magnitude, small, value⟩
  · exact absurd exceeds finite
  · rw [echo, respelled_of_int value]
    simp [ofLexeme, classify, meaning, unplaced, kind, fixity, operative, value]
  · rw [echo, respelled_of_float small value]
    simp [ofLexeme, classify, meaning, unplaced, kind, fixity, operative, value]

/-- Infinity is read as a function. -/
theorem echo_of_overflows (exceeds : token.Overflows) (free : config.isConstant "inf" = false) :
    token.echo config = ⟨.operator, "inf", none, 0, some .prefixed, false⟩ := by
  rw [echo, respelled_of_overflows exceeds]
  simp [ofLexeme, classify, free]

theorem echo_of_constant (role : token.IsConstantOf config) :
    token.echo config = token.unplaced := by
  obtain ⟨kind, fixity, constant, valueless, name, known⟩ := role
  rw [echo, respelled_of_valueless valueless, if_pos name]
  simp [ofLexeme, classify, unplaced, kind, fixity, constant, valueless, known]

/-- Without an overflow a leaf is read as a leaf with the same meaning. -/
theorem IsLeafOf.echo (role : token.IsLeafOf config) (finite : ¬ token.Overflows) :
    (token.echo config).kind = .number ∧ (token.echo config).meaning = token.meaning := by
  rcases role with literal | constant
  · exact echo_of_literal literal finite
  · rw [echo_of_constant constant]
    exact ⟨constant.1, meaning_unplaced token⟩

/-- An operator over one operand is read as such, and its text tells its position. -/
theorem TakesOne.echo (role : token.TakesOne config) :
    Operator.isInfixed token.lexeme = false ∧ (token.echo config).overOne = token.unplaced := by
  obtain ⟨kind, valueless, operative, ⟨fixity, name, free⟩ | ⟨fixity, suffix⟩⟩ := role
  · rw [Token.echo, respelled_of_valueless valueless, if_pos name]
    simp [ofLexeme, classify, unplaced, overOne, kind, valueless, operative, fixity, free,
      Operator.isInfixed_of_isName name, Operator.isSuffixed_of_isName name]
  · rw [Token.echo, respelled_of_valueless valueless, isName_eq_false_of_known (.inr suffix)]
    simp [ofLexeme, classify, unplaced, overOne, kind, valueless, operative, fixity, suffix,
      Operator.isInfixed_eq_false suffix]

theorem TakesTwo.echo (role : token.TakesTwo) :
    (token.echo config).infixed = token.unplaced := by
  rw [Token.echo, respelled_of_valueless role.valueless,
    isName_eq_false_of_known (.inl role.known)]
  simp [ofLexeme, classify, unplaced, infixed, role.kind, role.valueless, role.operative,
    role.fixity]

end Token

end Calculator
