import Calculator.Proofs.Token.Touching
import Calculator.Proofs.Tree.Rendering

/-!
# Trees written with brackets

The bracketing evaluator puts brackets around an operator and its two operands, writes a
negation as a sign in front of a bracketed operand, and a factorial just behind its operand
(`Tree.evaluate_bracketed`). In two ways an operator may so get into the hands of its
neighbour: a `!` runs into a `==` behind it (`Tree.KeepsLexemes`), and a sign or a `!` without
brackets of its own is weaker than the operator that it is an operand of
(`Tree.KeepsScopes`).
-/

namespace Calculator

namespace Tree

/-- The operators of arithmetic that stand between operands. -/
def arithmeticOperators : List String :=
  ["+", "-", "*", "/", "//", "^", "==", "<", "<=", ">", ">="]

/-- A tree of arithmetic: finite numbers, operators between operands, negations and
factorials. -/
def Arithmetic : Tree → Prop
  | leaf token => token.value.isSome = true ∧ ¬ token.Overflows
  | unary operator operand =>
    (operator.lexeme = "negate" ∨ operator.lexeme = "!") ∧ operand.Arithmetic
  | binary operator left right =>
    operator.lexeme ∈ arithmeticOperators ∧ left.Arithmetic ∧ right.Arithmetic

/-- Whether an operator of the given name stands over one operand at the root. -/
def isUnder (name : String) : Tree → Bool
  | unary operator _ => operator.lexeme == name
  | _ => false

/-- No factorial is the left operand of an equality, where `!` and `==` run together. -/
def KeepsLexemes : Tree → Prop
  | leaf _ => True
  | unary _ operand => operand.KeepsLexemes
  | binary operator left right =>
    ¬ (operator.lexeme = "==" ∧ left.isUnder "!" = true) ∧ left.KeepsLexemes ∧ right.KeepsLexemes

/-- No negation is the operand of a factorial or the base of a power, and no factorial is an
exponent. -/
def KeepsScopes : Tree → Prop
  | leaf _ => True
  | unary operator operand =>
    ¬ (operator.lexeme = "!" ∧ operand.isUnder "negate" = true) ∧ operand.KeepsScopes
  | binary operator left right =>
    ¬ (operator.lexeme = "^" ∧ (left.isUnder "negate" = true ∨ right.isUnder "!" = true)) ∧
      left.KeepsScopes ∧ right.KeepsScopes

instance decidableKeepsLexemes : (tree : Tree) → Decidable tree.KeepsLexemes
  | leaf _ => .isTrue trivial
  | unary _ operand => decidableKeepsLexemes operand
  | binary _ left right =>
    @instDecidableAnd _ _ inferInstance
      (@instDecidableAnd _ _ (decidableKeepsLexemes left) (decidableKeepsLexemes right))

instance decidableKeepsScopes : (tree : Tree) → Decidable tree.KeepsScopes
  | leaf _ => .isTrue trivial
  | unary _ operand => @instDecidableAnd _ _ inferInstance (decidableKeepsScopes operand)
  | binary _ left right =>
    @instDecidableAnd _ _ inferInstance
      (@instDecidableAnd _ _ (decidableKeepsScopes left) (decidableKeepsScopes right))

instance decidableArithmetic : (tree : Tree) → Decidable tree.Arithmetic
  | leaf token => inferInstanceAs (Decidable (token.value.isSome = true ∧ ¬ token.Overflows))
  | unary _ operand => @instDecidableAnd _ _ inferInstance (decidableArithmetic operand)
  | binary _ left right =>
    @instDecidableAnd _ _ inferInstance
      (@instDecidableAnd _ _ (decidableArithmetic left) (decidableArithmetic right))

/-- A tree of arithmetic with the literals of a text at its leaves. -/
inductive Plain : Tree → Prop
  | literal {token : Token} (role : token.IsLiteral) (finite : ¬ token.Overflows) :
      Plain (leaf token)
  | negation {operator : Token} {operand : Tree} (name : operator.lexeme = "negate")
      (inside : Plain operand) : Plain (unary operator operand)
  | factorial {operator : Token} {operand : Tree} (name : operator.lexeme = "!")
      (inside : Plain operand) : Plain (unary operator operand)
  | between {operator : Token} {left right : Tree} (known : operator.lexeme ∈ arithmeticOperators)
      (first : Plain left) (second : Plain right) : Plain (binary operator left right)

/-- What the bracketing evaluator writes. -/
def infixText : Tree → List Char
  | leaf token => token.respelled.chars
  | unary operator operand =>
    if operator.lexeme = "negate" then '-' :: '(' :: (operand.infixText ++ [')'])
    else operand.infixText ++ operator.lexeme.toList
  | binary operator left right =>
    '(' :: (left.infixText ++ (operator.lexeme.toList ++ (right.infixText ++ [')'])))

variable {operator : Token} {operand left right tree : Tree}

theorem infixText_negation (name : operator.lexeme = "negate") :
    (unary operator operand).infixText = '-' :: '(' :: (operand.infixText ++ [')']) := by
  rw [infixText, if_pos name]

theorem infixText_factorial (name : operator.lexeme = "!") :
    (unary operator operand).infixText = operand.infixText ++ ['!'] := by
  rw [infixText, name, if_neg (by decide)]
  rfl

theorem infixText_negation_append (name : operator.lexeme = "negate") (rest : List Char) :
    (unary operator operand).infixText ++ rest =
      '-' :: '(' :: (operand.infixText ++ ')' :: rest) := by
  simp [infixText_negation name]

theorem infixText_factorial_append (name : operator.lexeme = "!") (rest : List Char) :
    (unary operator operand).infixText ++ rest = operand.infixText ++ '!' :: rest := by
  simp [infixText_factorial name]

theorem infixText_binary_append (operator : Token) (left right : Tree) (rest : List Char) :
    (binary operator left right).infixText ++ rest = '(' :: (left.infixText ++
      (operator.lexeme.toList ++ (right.infixText ++ ')' :: rest))) := by
  simp [infixText]

/-- A written tree starts like an operand. -/
theorem Plain.startsOperand (plain : tree.Plain) :
    ∃ first others, tree.infixText = first :: others ∧ StartsOperand first := by
  induction plain with
  | literal role finite =>
      obtain ⟨first, others, same, digit⟩ := Lexeme.exists_digit_of_literal role finite
      exact ⟨first, others, same, .inr (.inr digit)⟩
  | negation name inside ih => exact ⟨'-', _, infixText_negation name, .inr (.inl rfl)⟩
  | factorial name inside ih =>
      obtain ⟨first, others, same, starts⟩ := ih
      exact ⟨first, others ++ ['!'], by rw [infixText_factorial name, same]; rfl, starts⟩
  | between known first second => exact ⟨'(', _, rfl, .inl rfl⟩

theorem apply_negate (name : operator.lexeme = "negate") (text : String) :
    Evaluator.bracketed.apply operator [.text text] = .ok (.text ("-(" ++ text ++ ")")) := by
  rw [Evaluator.apply, name]
  rfl

theorem apply_factorial (name : operator.lexeme = "!") (text : String) :
    Evaluator.bracketed.apply operator [.text text] = .ok (.text ("" ++ text ++ "!")) := by
  rw [Evaluator.apply, name]
  rfl

theorem apply_between (known : operator.lexeme ∈ arithmeticOperators) (first second : String) :
    Evaluator.bracketed.apply operator [.text first, .text second] =
      .ok (.text ("(" ++ first ++ operator.lexeme ++ second ++ ")")) := by
  rw [Evaluator.apply]
  generalize operator.lexeme = name at known
  simp only [arithmeticOperators, List.mem_cons, List.not_mem_nil, or_false] at known
  rcases known with rfl | rfl | rfl | rfl | rfl | rfl | rfl | rfl | rfl | rfl | rfl <;> rfl

/-- The bracketing evaluator writes every tree of arithmetic. -/
theorem Plain.evaluate_bracketed (plain : tree.Plain) :
    Evaluator.bracketed.evaluate tree = .ok (.text (String.ofList tree.infixText)) := by
  induction plain with
  | literal role finite => exact leafValue_literal rfl role
  | negation name inside ih =>
      rw [Evaluator.evaluate, ih, infixText_negation name]
      exact (apply_negate name _).trans (congrArg _ (by simp [String.ext_iff]))
  | factorial name inside ih =>
      rw [Evaluator.evaluate, ih, infixText_factorial name]
      exact (apply_factorial name _).trans (congrArg _ (by simp))
  | between known first second firstIh secondIh =>
      rw [Evaluator.evaluate, firstIh, secondIh, infixText]
      exact (apply_between known _ _).trans (congrArg _ (by simp [String.ext_iff]))

end Tree

end Calculator
