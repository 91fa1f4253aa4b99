import Calculator.Group.Suffix
import Calculator.Proofs.Expression.Basic

/-!
# The items of a written expression

An expression appears twice as a list of items: with its brackets turned into
groups (`Expression.items`), and after its suffix operators have moved in front of
their operands (`Expression.relocated`). In the second form suffixes no longer
compete for operands, so only the part of the left edge outside of them counts
(`Expression.spine`). The operand of a suffix is a chain of tight operators
(`Expression.isTight_of_mem_spine`, `Expression.three_le_of_mem_leftEdge`).
-/

namespace Calculator

namespace Expression

/-- The items of an expression, its brackets turned into groups. -/
def items : Expression → List Item
  | leaf token => [.single token]
  | bracketed opener inner _ => [.group (some opener.lexeme) opener.position inner.items]
  | prefixed operator operand => .single operator :: operand.items
  | infixed left operator right => left.items ++ .single operator :: right.items
  | suffixed operand operator => operand.items ++ [.single operator]

/-- The items of an expression, every suffix in a group in front of its operand. -/
def relocated : Expression → List Item
  | leaf token => [.single token]
  | bracketed opener inner _ => [.group (some opener.lexeme) opener.position inner.relocated]
  | prefixed operator operand => .single operator :: operand.relocated
  | infixed left operator right => left.relocated ++ .single operator :: right.relocated
  | suffixed operand operator =>
    [.group none operator.position (.single operator.suffixed :: operand.relocated)]

/-- The operators between operands on the left edge, outside of suffixes. -/
def spine : Expression → List Token
  | leaf _ | bracketed _ _ _ | prefixed _ _ | suffixed _ _ => []
  | infixed left operator _ => operator.infixed :: left.spine

theorem spine_subset_leftEdge (e : Expression) : e.spine ⊆ e.leftEdge := by
  induction e with
  | infixed left operator right leftSubset _ => exact List.cons_subset_cons _ leftSubset
  | _ => exact List.nil_subset _

theorem leading_fixity {operator : Token} (role : operator.IsFunction ∨ operator.IsSign) :
    operator.leading.fixity = some .prefixed := by
  unfold Token.leading
  rcases role with ⟨-, position, -⟩ | ⟨-, plain, -⟩
  · simp [position]
  · simp [plain]

/-- At the right edge stand operators before or between operands. -/
theorem fixity_of_mem_rightEdge {e : Expression} (fitted : e.Fitted) :
    ∀ token ∈ e.rightEdge, token.fixity ≠ some .suffixed := by
  induction e with
  | prefixed operator operand ih =>
      intro token member
      rcases List.mem_cons.mp member with rfl | inside
      · rw [leading_fixity fitted.1]
        decide
      · exact ih fitted.2 token inside
  | infixed left operator right _ ih =>
      intro token member
      rcases List.mem_cons.mp member with rfl | inside
      · rw [Token.infixed_fixity]
        decide
      · exact ih fitted.2.2 token inside
  | leaf | bracketed | suffixed => intro token member; cases member

/-- The operand of a suffix is open to the right for tight operators only. -/
theorem isTight_of_holdsOff {e : Expression} (fitted : e.Fitted) {suffix : Token}
    (role : suffix.IsSuffix) (holds : HoldsOff suffix.suffixed e.rightEdge) :
    ∀ token ∈ e.rightEdge, token.isTight = true := by
  intro token member
  have looser := holds token member
  rw [Operator.bindsTighter_of_suffixed suffix.suffixed role.2.2 rfl] at looser
  exact Token.isTight_of_three_le (Int.not_lt.mp (of_decide_eq_false looser))
    (fixity_of_mem_rightEdge fitted token member)

/-- What a tight operator holds off is tight. -/
theorem isTight_of_holdsOff_tight {edge : List Token} {operator : Token}
    (tight : operator.isTight = true) (holds : HoldsOff operator edge) :
    ∀ token ∈ edge, token.isTight = true := by
  intro token member
  have bound := Operator.le_of_not_bindsTighter (holds token member)
  have strong := Token.isTight_iff.mp tight
  exact Token.isTight_iff.mpr (by omega)

/-- If only tight operators stand at the right edge, the same holds of the left
one, suffixes apart. -/
theorem isTight_of_mem_spine {e : Expression} (conforming : e.Conforming)
    (tight : ∀ token ∈ e.rightEdge, token.isTight = true) :
    ∀ token ∈ e.spine, token.isTight = true := by
  induction e with
  | infixed left operator right ih _ =>
      intro token member
      have top : operator.infixed.isTight = true := tight _ List.mem_cons_self
      rcases List.mem_cons.mp member with rfl | inside
      · exact top
      · exact ih conforming.2.2.1 (isTight_of_holdsOff_tight top conforming.1) token inside
  | leaf | bracketed | prefixed | suffixed => intro token member; cases member

/-- If only tight operators stand at the right edge, those on the left edge are at
least as strong as suffixes. -/
theorem three_le_of_mem_leftEdge {e : Expression} (conforming : e.Conforming)
    (fitted : e.Fitted) (tight : ∀ token ∈ e.rightEdge, token.isTight = true) :
    ∀ token ∈ e.leftEdge, 3 ≤ token.precedence := by
  induction e with
  | infixed left operator right ih _ =>
      intro token member
      have top : operator.infixed.isTight = true := tight _ List.mem_cons_self
      rcases List.mem_cons.mp member with rfl | inside
      · exact Int.le_of_lt (Token.isTight_iff.mp top)
      · exact ih conforming.2.2.1 fitted.2.1 (isTight_of_holdsOff_tight top conforming.1) token
          inside
  | suffixed operand operator ih =>
      intro token member
      rcases List.mem_cons.mp member with rfl | inside
      · exact Int.le_of_eq
          (Token.precedence_of_isSuffixed operator.suffixed fitted.1.2.2 rfl).symm
      · exact ih conforming.2 fitted.2 (isTight_of_holdsOff fitted.2 fitted.1 conforming.1) token
          inside
  | leaf | bracketed | prefixed => intro token member; cases member

end Expression

end Calculator
