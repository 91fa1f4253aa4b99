import Calculator.Proofs.Expression.Items
import Calculator.Proofs.Tree.Reading

/-!
# The tree of a conforming expression

The items of a conforming expression, with its suffixes moved, are read as its
tree, whatever stands behind them, provided that the limit of nesting allows the
depth of the expression (`Tree.read_relocated`).
-/

namespace Calculator

namespace Tree

/-- Behind an operand stands nothing, or an operator that leaves it alone. -/
def Delimits (edge : List Token) (rest : List Item) : Prop :=
  rest = [] ∨ ∃ token behind, rest = .single token :: behind ∧ token.IsInfix ∧
    Expression.HoldsOff token.infixed edge

variable {limit depth : Nat} {active : Option Token}

/-- An operand ends at an operator that does not bind tighter than the active
one. -/
theorem read_of_delimits {operator : Token} {rest : List Item} (delimits : Delimits [operator] rest)
    (left : Tree) :
    read limit (some operator) depth (some left) rest = .ok (some left, rest) := by
  rcases delimits with rfl | ⟨token, behind, rfl, role, holds⟩
  · exact read_nil _
  · have notNumber : token.kind ≠ .number := by
      rw [role.1]
      decide
    have looser : Operator.bindsTighter (some token) (some operator) = false := by
      rw [← Operator.bindsTighter_infixed role.2.1]
      exact holds operator List.mem_cons_self
    exact read_return notNumber role.2.1 looser left behind

theorem readOperand_of_delimits {operator : Token} {items rest : List Item} {tree : Tree}
    (shallow : depth ≤ limit)
    (reading : read limit (some operator) depth none items =
      read limit (some operator) depth (some tree) rest)
    (delimits : Delimits [operator] rest) :
    readOperand limit (some operator) depth items = .ok (some tree, rest) := by
  rw [readOperand, if_neg (Nat.not_lt.mpr shallow), reading]
  exact read_of_delimits delimits tree

/-- Without an active operator an operand ends with the items. -/
theorem readOperand_of_end {items : List Item} {tree : Tree} (shallow : depth ≤ limit)
    (reading : read limit active depth none items = read limit active depth (some tree) []) :
    readOperand limit active depth items = .ok (some tree, []) := by
  rw [readOperand, if_neg (Nat.not_lt.mpr shallow), reading]
  exact read_nil _

theorem Delimits.mono {edge larger : List Token} {rest : List Item} (subset : edge ⊆ larger)
    (delimits : Delimits larger rest) : Delimits edge rest := by
  rcases delimits with empty | ⟨token, behind, split, role, holds⟩
  · exact .inl empty
  · exact .inr ⟨token, behind, split, role, fun other member => holds other (subset member)⟩

theorem leadingOperator_eq {operator : Token} (role : operator.IsFunction ∨ operator.IsSign) :
    leadingOperator operator = .ok operator.leading := by
  unfold leadingOperator Token.leading
  rcases role with ⟨-, position, -⟩ | ⟨-, plain, sign⟩
  · simp [position]
  · have minus : Operator.ofText "-" = .minus := by decide
    simp [plain, sign, minus]

open Expression in
/-- The items of a conforming expression are read as its tree. The operator that
is active yields to the operators on its left edge, and what stands behind it
leaves its right edge alone. -/
theorem read_relocated (e : Expression) (conforming : e.Conforming) (fitted : e.Fitted)
    (depth : Nat) (active : Option Token) (rest : List Item) (shallow : depth + e.depth ≤ limit)
    (yields : ∀ operator ∈ active, YieldsTo operator e.spine)
    (delimits : Delimits e.rightEdge rest) :
    read limit active depth none (e.relocated ++ rest) =
      read limit active depth (some e.tree) rest := by
  induction e generalizing depth active rest with
  | leaf token =>
      exact read_number fitted rest
  | bracketed opener inner closer ih =>
      simp only [Expression.depth] at shallow
      have content : readOperand limit none (depth + 1) inner.relocated =
          .ok (some inner.tree, []) := by
        have reading := ih conforming fitted (depth + 1) none [] (by omega) (by simp)
          (.inl rfl)
        rw [List.append_nil] at reading
        exact readOperand_of_end (by omega) reading
      simp only [relocated, List.cons_append, List.nil_append, read_group, content, Except.bind,
        Expression.tree]
  | prefixed operator operand ih =>
      simp only [Expression.depth] at shallow
      have notNumber := Token.kind_ne_number_of_leading fitted.1
      have content : readOperand limit (some operator.leading) (depth + 1)
          (operand.relocated ++ rest) = .ok (some operand.tree, rest) := by
        have reading := ih conforming.2 fitted.2 (depth + 1) (some operator.leading) rest
          (by omega) (fun _ same token member => Option.some.inj same ▸
            conforming.1 token (spine_subset_leftEdge operand member))
          (delimits.mono (List.subset_cons_self _ _))
        exact readOperand_of_delimits (by omega) reading (delimits.mono (by simp [rightEdge]))
      simp only [relocated, List.cons_append, read_leading notNumber,
        leadingOperator_eq fitted.1, content, Except.bind, Expression.tree]
  | infixed left operator right leftIh rightIh =>
      simp only [Expression.depth] at shallow
      have notNumber : operator.kind ≠ .number := by
        rw [fitted.1.1]
        decide
      have tighter : Operator.bindsTighter (some operator) active = true := by
        cases active with
        | none => rfl
        | some outer =>
            rw [← Operator.bindsTighter_infixed fitted.1.2.1]
            exact yields outer rfl operator.infixed List.mem_cons_self
      have first := leftIh conforming.2.2.1 fitted.2.1 depth active
        (.single operator :: (right.relocated ++ rest)) (by omega)
        (fun outer same token member => yields outer same token (List.mem_cons_of_mem _ member))
        (.inr ⟨operator, _, rfl, fitted.1, conforming.1⟩)
      have second : readOperand limit (some operator.infixed) (depth + 1)
          (right.relocated ++ rest) = .ok (some right.tree, rest) := by
        have reading := rightIh conforming.2.2.2 fitted.2.2 (depth + 1) (some operator.infixed)
          rest (by omega) (fun _ same token member => Option.some.inj same ▸
            conforming.2.1 token (spine_subset_leftEdge right member))
          (delimits.mono (List.subset_cons_self _ _))
        exact readOperand_of_delimits (by omega) reading (delimits.mono (by simp [rightEdge]))
      simp only [relocated, List.append_assoc, List.cons_append]
      rw [first, read_between notNumber fitted.1.2.1 tighter, second]
      rfl
  | suffixed operand operator ih =>
      simp only [Expression.depth] at shallow
      have notNumber : operator.suffixed.kind ≠ .number := by
        change operator.kind ≠ .number
        rw [fitted.1.1]
        decide
      have content : readOperand limit (some operator.suffixed) (depth + 2) operand.relocated =
          .ok (some operand.tree, []) := by
        have tight := isTight_of_mem_spine conforming.2
          (isTight_of_holdsOff fitted.2 fitted.1 conforming.1)
        have reading := ih conforming.2 fitted.2 (depth + 2) (some operator.suffixed) []
          (by omega) (fun _ same token member => by
            obtain rfl := Option.some.inj same
            rw [Operator.bindsTighter_suffixed token operator.suffixed fitted.1.2.2 rfl]
            exact tight token member) (.inl rfl)
        rw [List.append_nil] at reading
        exact readOperand_of_end (by omega) reading
      have moved : leadingOperator operator.suffixed = .ok operator.suffixed := rfl
      have group : readOperand limit none (depth + 1)
          (.single operator.suffixed :: operand.relocated) =
            .ok (some (.unary operator.suffixed operand.tree), []) := by
        rw [readOperand, if_neg (by omega), read_leading notNumber, moved]
        simp only [Except.bind, content, read_nil]
      simp only [relocated, List.cons_append, List.nil_append, read_group, group, Except.bind,
        Expression.tree]

end Tree

end Calculator
