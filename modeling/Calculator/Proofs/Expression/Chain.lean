import Calculator.Proofs.Expression.Basic

/-!
# Chains of operators

A chain is an expression with further operands on its right, each behind an operator
(`Expression.chain`). If no operator of the chain binds tighter than another one, or than
what an operand is open for, the chain is written without brackets
(`Expression.Chained.conforming_chain`); operators of one level that nest to the left are of
this kind (`Expression.LeftAssociative.chained`). However long it is, it nests no deeper than its
operands (`Expression.depth_chain_le`).
-/

namespace Calculator

namespace Expression

/-- An expression with further operands on its right, grouped to the left. -/
def chain (first : Expression) (steps : List (Token × Expression)) : Expression :=
  steps.foldl (fun left step => infixed left step.1 step.2) first

/-- The operands can be written side by side: every operator of the chain stands between
operands, leaves what is on its left alone, and is held together on its right. -/
structure Chained (config : Config) (first : Expression) (steps : List (Token × Expression)) :
    Prop where
  formed : first.WellFormed config ∧ ∀ step ∈ steps, step.1.IsInfix ∧ step.2.WellFormed config
  conforming : first.Conforming ∧
    ∀ step ∈ steps, YieldsTo step.1.infixed step.2.leftEdge ∧ step.2.Conforming
  grouped : ∀ step ∈ steps, HoldsOff step.1.infixed first.rightEdge ∧
    ∀ other ∈ steps, HoldsOff step.1.infixed (other.1.infixed :: other.2.rightEdge)

variable {config : Config} {first : Expression} {step : Token × Expression}
  {steps : List (Token × Expression)}

@[simp] theorem chain_nil : first.chain [] = first := rfl

@[simp] theorem chain_cons :
    first.chain (step :: steps) = (infixed first step.1 step.2).chain steps := rfl

/-- The first operand takes the second one in. -/
theorem Chained.tail (chained : Chained config first (step :: steps)) :
    Chained config (infixed first step.1 step.2) steps := by
  obtain ⟨formed, conforming, grouped⟩ := chained
  have here : step ∈ step :: steps := List.mem_cons_self
  have later : ∀ other ∈ steps, other ∈ step :: steps := fun other => List.mem_cons_of_mem step
  obtain ⟨role, operand⟩ := formed.2 step here
  refine ⟨⟨⟨⟨role, formed.1.fitted, operand.fitted⟩, ⟨formed.1.bracketed, operand.bracketed⟩⟩,
    fun other member => formed.2 other (later other member)⟩, ⟨?_, fun other member =>
      conforming.2 other (later other member)⟩, fun other member => ?_⟩
  · obtain ⟨yields, inside⟩ := conforming.2 step here
    exact ⟨(grouped step here).1, yields, conforming.1, inside⟩
  · obtain ⟨-, all⟩ := grouped other (later other member)
    exact ⟨all step here, fun third further => all third (later third further)⟩

theorem Chained.wellFormed_chain (chained : Chained config first steps) :
    (first.chain steps).WellFormed config := by
  induction steps generalizing first with
  | nil => exact chained.formed.1
  | cons step steps ih => exact ih chained.tail

theorem Chained.conforming_chain (chained : Chained config first steps) :
    (first.chain steps).Conforming := by
  induction steps generalizing first with
  | nil => exact chained.conforming.1
  | cons step steps ih => exact ih chained.tail

/-- Operators between operands that share a precedence and nest to the left. -/
def LeftAssociative (operators : List Token) : Prop :=
  ∀ operator ∈ operators, operator.IsInfix ∧
    Operator.isRightAssociative operator.lexeme = false ∧
      ∀ other ∈ operators, operator.precedence = other.precedence

theorem LeftAssociative.bindsTighter {operators : List Token}
    (associative : LeftAssociative operators) {operator other : Token}
    (member : operator ∈ operators) (another : other ∈ operators) :
    Operator.bindsTighter (some operator.infixed) (some other.infixed) = false := by
  obtain ⟨role, left, level⟩ := associative operator member
  refine Operator.bindsTighter_eq_false left (Int.le_of_eq ?_)
  rw [Token.precedence_infixed role.2.1, level other another,
    Token.precedence_infixed (associative other another).1.2.1]

/-- Operators of one level that nest to the left make a chain of numbers. -/
theorem LeftAssociative.chained {config : Config} {first : Token} {steps : List (Token × Token)}
    (associative : LeftAssociative (steps.map Prod.fst)) (number : first.kind = .number)
    (numbers : ∀ step ∈ steps, step.2.kind = .number) :
    Chained config (leaf first) (steps.map fun step => (step.1, leaf step.2)) := by
  have operators : ∀ step ∈ steps, step.1 ∈ steps.map Prod.fst :=
    fun step member => List.mem_map.mpr ⟨step, member, rfl⟩
  refine ⟨⟨⟨number, trivial⟩, ?_⟩, ⟨trivial, ?_⟩, ?_⟩
  · intro step member
    obtain ⟨step, inside, rfl⟩ := List.mem_map.mp member
    exact ⟨(associative step.1 (operators step inside)).1, numbers step inside, trivial⟩
  · intro step member
    obtain ⟨step, inside, rfl⟩ := List.mem_map.mp member
    exact ⟨List.forall_mem_nil _, trivial⟩
  · intro step member
    obtain ⟨step, inside, rfl⟩ := List.mem_map.mp member
    refine ⟨List.forall_mem_nil _, fun other another => ?_⟩
    obtain ⟨other, within, rfl⟩ := List.mem_map.mp another
    intro token edge
    obtain rfl := List.mem_singleton.mp edge
    exact associative.bindsTighter (operators step inside) (operators other within)

/-- Only the operands count, not how many there are. -/
theorem depth_chain_le {limit : Nat} (shallow : first.depth ≤ limit)
    (operands : ∀ step ∈ steps, step.2.depth + 1 ≤ limit) : (first.chain steps).depth ≤ limit := by
  induction steps generalizing first with
  | nil => exact shallow
  | cons step steps ih =>
      have joined : (infixed first step.1 step.2).depth ≤ limit :=
        Nat.max_le.mpr ⟨shallow, operands step List.mem_cons_self⟩
      exact ih joined fun other member => operands other (List.mem_cons_of_mem _ member)

theorem tokens_chain : (first.chain steps).tokens =
    first.tokens ++ steps.flatMap fun step => step.1 :: step.2.tokens := by
  induction steps generalizing first with
  | nil => simp
  | cons step steps ih => simp [ih, tokens]

/-- The tree of a chain leans to the left. -/
theorem tree_chain : (first.chain steps).tree =
    steps.foldl (fun tree step => .binary step.1.infixed tree step.2.tree) first.tree := by
  induction steps generalizing first with
  | nil => rfl
  | cons step steps ih => exact @ih (infixed first step.1 step.2)

end Expression

end Calculator
