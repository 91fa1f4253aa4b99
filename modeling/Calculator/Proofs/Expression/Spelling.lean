import Calculator.Proofs.Expression.Items
import Calculator.Proofs.Group.Frames
import Calculator.Proofs.Group.Product

/-!
# From items back to tokens

The items of a well-formed expression spell its tokens (`Expression.spells_items`),
do not touch (`Expression.apart_items`), and come back when its suffixes move back
(`Expression.restoredIn_relocated`). Items do not keep closing brackets; for every
way of closing them there is an expression that resembles the given one
(`Expression.exists_written`).
-/

namespace Calculator

namespace Expression

open Item

variable {config : Config}

theorem kind_ne_bracket_of_leads {operator : Token}
    (role : operator.IsFunction ∨ operator.IsSign) : operator.kind ≠ .bracket := by
  rcases role with role | role <;> rw [role.1] <;> decide

/-- The items of an expression spell its tokens. -/
theorem spells_items {e : Expression} (formed : e.WellFormed config) :
    Spells config e.items e.tokens := by
  obtain ⟨fitted, bracketed⟩ := formed
  induction e with
  | leaf token =>
      exact .single (by rw [show token.kind = .number from fitted]; decide) .nil
  | bracketed opener inner closer ih =>
      exact .group bracketed.1 bracketed.2.1 (ih fitted bracketed.2.2) .nil
  | prefixed operator operand ih =>
      exact .single (kind_ne_bracket_of_leads fitted.1) (ih fitted.2 bracketed)
  | infixed left operator right leftIh rightIh =>
      exact (leftIh fitted.2.1 bracketed.1).append
        (.single (by rw [fitted.1.1]; decide) (rightIh fitted.2.2 bracketed.2))
  | suffixed operand operator ih =>
      exact (ih fitted.2 bracketed).append (.single (by rw [fitted.1.1]; decide) .nil)

/-- Brackets nest no deeper than the expression. -/
theorem nestingIn_items_le (e : Expression) : nestingIn e.items ≤ e.depth := by
  induction e with
  | leaf => simp [items, nestingIn, nesting]
  | bracketed opener inner closer ih => simp [items, nestingIn, nesting, depth, ih]
  | prefixed operator operand ih =>
      simp only [items, nestingIn, nesting, depth]
      omega
  | infixed left operator right leftIh rightIh =>
      simp only [items, nestingIn_append, nestingIn, nesting, depth]
      omega
  | suffixed operand operator ih =>
      simp only [items, nestingIn_append, nestingIn, nesting, depth]
      omega

/-- Moving suffixes and moving them back changes nothing. -/
theorem restoredIn_relocated {e : Expression} (fitted : e.Fitted) :
    restoredIn e.relocated = e.items := by
  induction e with
  | leaf => simp [relocated, items]
  | bracketed opener inner closer ih => simp [relocated, items, restored, ih fitted]
  | prefixed operator operand ih => simp [relocated, items, ih fitted.2]
  | infixed left operator right leftIh rightIh =>
      simp [relocated, items, leftIh fitted.2.1, rightIh fitted.2.2]
  | suffixed operand operator ih =>
      rw [relocated, restoredIn_cons, restored, restoredIn_cons, restored_single, ih fitted.2]
      simp only [List.cons_append, List.nil_append, moveBack, restoredIn_nil, List.append_nil,
        Token.plain_suffixed fitted.1.2.1, items]

theorem endsValue_of_leads {operator : Token} (role : operator.IsFunction ∨ operator.IsSign) :
    endsValue (.single operator) = false := by
  rcases role with role | role
  · simp [endsValue, role.1, Operator.isSuffixed_of_isName role.2.2]
  · simp only [endsValue, role.1, role.2.2]
    decide

theorem endsValue_of_isInfix {operator : Token} (role : operator.IsInfix) :
    endsValue (.single operator) = false := by
  have different : Operator.isSuffixed operator.lexeme = false := by
    cases suffix : Operator.isSuffixed operator.lexeme with
    | false => rfl
    | true => exact absurd role.2.2 (by simp [Operator.isInfixed_eq_false suffix])
  simp [endsValue, role.1, different]

theorem startsValue_of_plain {operator : Token} (kind : operator.kind = .operator)
    (plain : operator.fixity = none) : startsValue (.single operator) = false := by
  simp [startsValue, kind, plain]

/-- Between any two operands of an expression stands an operator. -/
theorem apart_items {e : Expression} (fitted : e.Fitted) :
    HoldsIn (fun _ => True) Apart e.items := by
  induction e with
  | leaf => simp [items]
  | bracketed opener inner closer ih => simpa [items] using ih fitted
  | prefixed operator operand ih =>
      refine holdsIn_cons.mpr ⟨trivial, fun next _ touch => ?_, ih fitted.2⟩
      rw [endsValue_of_leads fitted.1] at touch
      cases touch.1
  | infixed left operator right leftIh rightIh =>
      refine holdsIn_append.mpr ⟨leftIh fitted.2.1, holdsIn_cons.mpr ⟨trivial, ?_,
        rightIh fitted.2.2⟩, ?_⟩
      · intro next _ touch
        rw [endsValue_of_isInfix fitted.1] at touch
        cases touch.1
      · rintro before _ next ⟨⟩ touch
        rw [startsValue_of_plain fitted.1.1 fitted.1.2.1] at touch
        cases touch.2
  | suffixed operand operator ih =>
      refine holdsIn_append.mpr ⟨ih fitted.2, by simp, ?_⟩
      rintro before _ next ⟨⟩ touch
      rw [startsValue_of_plain fitted.1.1 fitted.1.2.1] at touch
      cases touch.2

/-- An expression that differs from another one in its brackets only, but not in
what they hold together. -/
structure Resembles (e written : Expression) : Prop where
  tree : written.tree = e.tree
  leftEdge : written.leftEdge = e.leftEdge
  rightEdge : written.rightEdge = e.rightEdge
  fitted : written.Fitted
  conforming : written.Conforming

/-- However the groups among the items are closed, an expression is written that
way. -/
theorem exists_written {e : Expression} {tokens : List Token} (fitted : e.Fitted)
    (conforming : e.Conforming) (spells : Spells config e.items tokens) :
    ∃ written, Resembles e written ∧ written.Bracketed config ∧ written.tokens = tokens := by
  induction e generalizing tokens with
  | leaf token =>
      rcases spells with _ | ⟨_, ⟨⟩⟩
      exact ⟨leaf token, ⟨rfl, rfl, rfl, fitted, trivial⟩, trivial, rfl⟩
  | bracketed opener inner closer ih =>
      rw [items] at spells
      -- The opening bracket of the group may be another token at the same place.
      generalize group : [Item.group (some opener.lexeme) opener.position inner.items] = all
        at spells
      cases spells with
      | nil => cases group
      | single => cases group
      | @group first last content _ _ _ opens closes inside later =>
          obtain ⟨-, -, rfl⟩ := Item.group.inj (List.cons.inj group).1
          obtain rfl := (List.cons.inj group).2
          cases later
          obtain ⟨written, same, closed, rfl⟩ := ih fitted conforming inside
          exact ⟨bracketed first written last, ⟨same.tree, rfl, rfl, same.fitted, same.conforming⟩,
            ⟨opens, closes, closed⟩, rfl⟩
  | prefixed operator operand ih =>
      rcases spells with _ | ⟨_, later⟩
      obtain ⟨written, same, closed, rfl⟩ := ih fitted.2 conforming.2 later
      refine ⟨prefixed operator written, ⟨?_, rfl, ?_, ⟨fitted.1, same.fitted⟩, ?_⟩, closed, rfl⟩
      · rw [tree, tree, same.tree]
      · rw [rightEdge, rightEdge, same.rightEdge]
      · exact ⟨same.leftEdge ▸ conforming.1, same.conforming⟩
  | infixed left operator right leftIh rightIh =>
      obtain ⟨before, after, rfl, spellsLeft, spellsBehind⟩ := spells.exists_append
      rcases spellsBehind with _ | ⟨_, spellsRight⟩
      obtain ⟨first, sameLeft, closedLeft, rfl⟩ := leftIh fitted.2.1 conforming.2.2.1 spellsLeft
      obtain ⟨second, sameRight, closedRight, rfl⟩ :=
        rightIh fitted.2.2 conforming.2.2.2 spellsRight
      refine ⟨infixed first operator second, ⟨?_, ?_, ?_, ⟨fitted.1, sameLeft.fitted,
        sameRight.fitted⟩, ?_⟩, ⟨closedLeft, closedRight⟩, rfl⟩
      · rw [tree, tree, sameLeft.tree, sameRight.tree]
      · rw [leftEdge, leftEdge, sameLeft.leftEdge]
      · rw [rightEdge, rightEdge, sameRight.rightEdge]
      · exact ⟨sameLeft.rightEdge ▸ conforming.1, sameRight.leftEdge ▸ conforming.2.1,
          sameLeft.conforming, sameRight.conforming⟩
  | suffixed operand operator ih =>
      obtain ⟨before, after, rfl, spellsOperand, spellsBehind⟩ := spells.exists_append
      rcases spellsBehind with _ | ⟨_, ⟨⟩⟩
      obtain ⟨written, same, closed, rfl⟩ := ih fitted.2 conforming.2 spellsOperand
      refine ⟨suffixed written operator, ⟨?_, ?_, rfl, ⟨fitted.1, same.fitted⟩, ?_⟩, closed, rfl⟩
      · rw [tree, tree, same.tree]
      · rw [leftEdge, leftEdge, same.leftEdge]
      · exact ⟨same.rightEdge ▸ conforming.1, same.conforming⟩

end Expression

end Calculator
