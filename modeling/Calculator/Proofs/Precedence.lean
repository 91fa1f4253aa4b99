import Calculator.Operator
import Mathlib

/-!
# Which operator binds tighter

Comparing two operators comes down to comparing two numbers, up to ties. All
suffix operators have the same precedence, no operator of another position shares
it, and an operator is called tight if it binds tighter than they do
(`Token.isTight`). Tightness alone decides how far the operand of a suffix reaches
(`Operator.bindsTighter_suffixed`).
-/

namespace Calculator

namespace Token

/-- The precedence of a token in its own position. -/
def precedence (token : Token) : Int := Operator.precedence token.lexeme token.fixity

/-- Whether an operator binds tighter than the suffix operators. -/
def isTight (token : Token) : Bool := decide (3 < token.precedence)

def infixed (token : Token) : Token := { token with fixity := some .infixed }

def suffixed (token : Token) : Token := { token with fixity := some .suffixed }

/-- A token as an operator before its operand, where a sign turns into the
negation. -/
def leading (token : Token) : Token :=
  if token.fixity.isSome then token
  else { token with lexeme := "negate", fixity := some .prefixed }

/-- A token as an operator over one operand: behind it if that is where its text
stands, before it otherwise. -/
def overOne (token : Token) : Token :=
  { token with fixity := some (if Operator.isSuffixed token.lexeme then .suffixed else .prefixed) }

/-- A token that has forgotten its position. -/
def plain (token : Token) : Token := { token with fixity := none }

@[simp] theorem infixed_fixity (token : Token) : token.infixed.fixity = some .infixed := rfl

theorem plain_suffixed {token : Token} (plain : token.fixity = none) :
    token.suffixed.plain = token := by
  rw [suffixed, Token.plain, ← plain]

theorem suffixed_plain {token : Token} (position : token.fixity = some .suffixed) :
    token.plain.suffixed = token := by
  rw [suffixed, Token.plain, ← position]

/-- Operators without a position are compared as if they stood between two
operands. -/
@[simp] theorem precedence_infixed {token : Token} (plain : token.fixity = none) :
    token.infixed.precedence = token.precedence := by
  simp only [precedence, infixed, plain, Operator.precedence]

@[simp] theorem isTight_infixed {token : Token} (plain : token.fixity = none) :
    token.infixed.isTight = token.isTight := by
  simp only [isTight, precedence_infixed plain]

end Token

namespace Operator

/-- A text that is a known operator is spelled as the table says. -/
theorem eq_of_ofText {text spelling : String} {operator : Operator}
    (spelled : ∀ row ∈ table, row.1 = operator → row.2.2 = spelling) (known : operator ≠ .other)
    (same : ofText text = operator) : text = spelling := by
  unfold ofText at same
  split at same
  · rename_i row found
    have named : row.2.2 = text := by simpa using List.find?_some found
    rw [← named]
    exact spelled row (List.mem_of_find?_eq_some found) same
  · exact absurd same.symm known

theorem eq_minus_of_ofText {text : String} (minus : ofText text = .minus) : text = "-" :=
  eq_of_ofText (by decide) (by decide) minus

/-- Nothing is weaker than the comma. -/
theorem neg_one_le_precedence (text : String) (fixity : Option Fixity) :
    -1 ≤ precedence text fixity := by
  unfold precedence
  match fixity with
  | none | some .infixed => cases ofText text <;> simp [infixedPrecedence?]
  | some .prefixed => cases ofText text <;> simp [prefixedPrecedence?]
  | some .suffixed => cases ofText text <;> simp [suffixedPrecedence?]

/-- Every other operator is stronger. -/
theorem neg_one_lt_precedence {text : String} (other : text ≠ ",") (fixity : Option Fixity) :
    -1 < precedence text fixity := by
  have different : ofText text ≠ .comma := fun comma =>
    other (eq_of_ofText (by decide) (by decide) comma)
  unfold precedence
  match fixity with
  | none | some .infixed =>
      revert different
      cases ofText text <;> simp [infixedPrecedence?]
  | some .prefixed => cases ofText text <;> simp [prefixedPrecedence?]
  | some .suffixed => cases ofText text <;> simp [suffixedPrecedence?]

theorem precedence_suffixed {text : String} (suffix : isSuffixed text = true) :
    precedence text (some .suffixed) = 3 := by
  unfold isSuffixed at suffix
  unfold precedence
  cases known : ofText text <;> simp_all [suffixedPrecedence?]

/-- Chains of suffix operators do not nest to the right. -/
theorem isRightAssociative_eq_false {text : String} (suffix : isSuffixed text = true) :
    isRightAssociative text = false := by
  unfold isSuffixed at suffix
  unfold isRightAssociative
  cases known : ofText text <;> simp_all [suffixedPrecedence?]

/-- No operator stands both between and behind its operands. -/
theorem isInfixed_eq_false {text : String} (suffix : isSuffixed text = true) :
    isInfixed text = false := by
  unfold isSuffixed at suffix
  unfold isInfixed
  cases known : ofText text <;> simp_all [suffixedPrecedence?, infixedPrecedence?]

/-- No operator that stands before or between operands has the precedence of the
suffix operators. -/
theorem precedence_ne_three (text : String) {fixity : Option Fixity}
    (position : fixity ≠ some .suffixed) : precedence text fixity ≠ 3 := by
  unfold precedence
  match fixity with
  | none | some .infixed =>
      cases ofText text <;> simp [infixedPrecedence?]
  | some .prefixed =>
      cases ofText text <;> simp [prefixedPrecedence?]
  | some .suffixed => exact absurd rfl position

theorem precedence_prefixed (text : String) : precedence text (some .prefixed) = 2 := by
  unfold precedence
  cases ofText text <;> simp [prefixedPrecedence?]

/-- An operator without a position competes as if it stood between two
operands. -/
theorem bindsTighter_infixed {operator : Token} (plain : operator.fixity = none)
    (active : Option Token) :
    bindsTighter (some operator.infixed) active = bindsTighter (some operator) active := by
  have same : precedence operator.lexeme (some .infixed) = precedence operator.lexeme none := rfl
  cases active with
  | none => rfl
  | some active => simp only [bindsTighter, Token.infixed, plain, same]

theorem le_of_bindsTighter {operator active : Token}
    (tighter : bindsTighter (some operator) (some active) = true) :
    active.precedence ≤ operator.precedence := by
  simp only [bindsTighter] at tighter
  split at tighter
  · exact of_decide_eq_true tighter
  · exact Int.le_of_lt (of_decide_eq_true tighter)

theorem le_of_not_bindsTighter {operator active : Token}
    (looser : bindsTighter (some operator) (some active) = false) :
    operator.precedence ≤ active.precedence := by
  simp only [bindsTighter] at looser
  split at looser
  · exact Int.le_of_lt (Int.not_le.mp (of_decide_eq_false looser))
  · exact Int.not_lt.mp (of_decide_eq_false looser)

/-- An operator that nests to the left does not bind tighter than one as strong. -/
theorem bindsTighter_eq_false {operator active : Token}
    (left : isRightAssociative operator.lexeme = false)
    (weaker : operator.precedence ≤ active.precedence) :
    bindsTighter (some operator) (some active) = false := by
  simp only [bindsTighter, left, Bool.false_and, Bool.false_eq_true, ↓reduceIte]
  exact decide_eq_false (Int.not_lt.mpr weaker)

theorem bindsTighter_of_lt {operator active : Token}
    (stronger : active.precedence < operator.precedence) :
    bindsTighter (some operator) (some active) = true := by
  simp only [bindsTighter]
  split
  · exact decide_eq_true (Int.le_of_lt stronger)
  · exact decide_eq_true stronger

end Operator

namespace Token

theorem isTight_iff {token : Token} : token.isTight = true ↔ 3 < token.precedence :=
  decide_eq_true_iff

theorem precedence_of_isSuffixed (suffix : Token) (known : Operator.isSuffixed suffix.lexeme = true)
    (position : suffix.fixity = some .suffixed) : suffix.precedence = 3 := by
  rw [precedence, position]
  exact Operator.precedence_suffixed known

theorem isTight_prefixed {token : Token} (position : token.fixity = some .prefixed) :
    token.isTight = false := by
  rw [isTight, precedence, position, Operator.precedence_prefixed]
  rfl

/-- An operator that is not tight is weaker than every suffix. -/
theorem precedence_lt_of_not_isTight {token : Token} (loose : token.isTight = false)
    (position : token.fixity ≠ some .suffixed) : token.precedence < 3 := by
  have bound : token.precedence ≤ 3 := Int.not_lt.mp (of_decide_eq_false loose)
  have different : token.precedence ≠ 3 := Operator.precedence_ne_three token.lexeme position
  omega

/-- An operator that is as strong as a suffix is tight, unless it is one. -/
theorem isTight_of_three_le {token : Token} (strong : 3 ≤ token.precedence)
    (position : token.fixity ≠ some .suffixed) : token.isTight = true := by
  have different : token.precedence ≠ 3 := Operator.precedence_ne_three token.lexeme position
  exact isTight_iff.mpr (by omega)

end Token

namespace Operator

/-- An operator binds tighter than a suffix exactly if it is tight. -/
theorem bindsTighter_suffixed (token suffix : Token)
    (known : isSuffixed suffix.lexeme = true) (position : suffix.fixity = some .suffixed) :
    bindsTighter (some token) (some suffix) = token.isTight := by
  have fixed : Operator.precedence suffix.lexeme suffix.fixity = 3 :=
    Token.precedence_of_isSuffixed suffix known position
  simp only [bindsTighter, isRightAssociative_eq_false known, Bool.and_false, fixed,
    Bool.false_eq_true, ↓reduceIte]
  rfl

/-- A suffix does not bind tighter than an operator exactly if that is tight. -/
theorem bindsTighter_of_suffixed (suffix : Token) (known : isSuffixed suffix.lexeme = true)
    (position : suffix.fixity = some .suffixed) (token : Token) :
    bindsTighter (some suffix) (some token) = decide (token.precedence < 3) := by
  have fixed : Operator.precedence suffix.lexeme suffix.fixity = 3 :=
    Token.precedence_of_isSuffixed suffix known position
  simp only [bindsTighter, isRightAssociative_eq_false known, Bool.false_and, fixed,
    Bool.false_eq_true, ↓reduceIte]
  rfl

end Operator

end Calculator
