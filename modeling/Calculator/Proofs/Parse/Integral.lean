import Calculator.Proofs.Evaluator.Integral
import Calculator.Proofs.Parse.Postfix

/-!
# Integer results

A text that is read, in infix or in postfix order, has literals and constants at the leaves of
its trees, and no comma over a single operand. So integer arithmetic on a tree in which commas
only join arguments ends with an integer, a truth value or a problem that is reported
(`Evaluator.evaluate_integer`), whatever is written: nothing breaks down.
-/

namespace Calculator

variable {config : Config}

theorem Token.IsLeafOf.isArithmetic {token : Token} (role : token.IsLeafOf config) :
    (Tree.leaf token).IsArithmetic := by
  rcases role with literal | constant
  · obtain ⟨numeral, value⟩ := literal.2.2.2
    exact .inr ⟨numeral.value, value⟩
  · exact .inl constant.2.2.1

/-- An operator that takes one operand is no comma. -/
theorem Expression.isArithmetic_tree {e : Expression} (fitted : e.Fitted)
    (settled : ∀ token ∈ e.tokens, token.Settled config) : e.tree.IsArithmetic := by
  induction e with
  | leaf token => exact ((settled token List.mem_cons_self).isLeafOf fitted).isArithmetic
  | bracketed opener inner closer ih =>
      exact ih fitted fun token member => settled token (by simp [tokens, member])
  | prefixed operator operand ih =>
      refine ⟨?_, ih fitted.2 fun token member => settled token (by simp [tokens, member])⟩
      unfold Token.leading
      rcases fitted.1 with ⟨-, fixity, name⟩ | ⟨-, fixity, -⟩
      · rw [fixity, Option.isSome_some, if_pos rfl]
        intro comma
        rw [comma] at name
        exact absurd name (by decide)
      · rw [fixity, Option.isSome_none, if_neg Bool.false_ne_true]
        exact show "negate" ≠ "," by decide
  | infixed left operator right leftIh rightIh =>
      exact ⟨leftIh fitted.2.1 fun token member => settled token (by simp [tokens, member]),
        rightIh fitted.2.2 fun token member => settled token (by simp [tokens, member])⟩
  | suffixed operand operator ih =>
      refine ⟨?_, ih fitted.2 fun token member => settled token (by simp [tokens, member])⟩
      intro comma
      have suffix := fitted.1.2.2
      rw [show operator.lexeme = "," from comma] at suffix
      revert suffix
      decide

namespace Tree

variable {stack after : List Tree} {token : Token} {tokens : List Token}

/-- One token keeps the trees on the stack arithmetic. -/
theorem isArithmetic_of_shift (settled : token.Settled config)
    (arithmetic : ∀ tree ∈ stack, tree.IsArithmetic) (shifted : shift stack token = .ok after) :
    ∀ tree ∈ after, tree.IsArithmetic := by
  rcases cases_of_shift shifted with ⟨number, rfl⟩ |
    ⟨operates, between, left, right, rest, rfl, rfl⟩ | ⟨operates, single, operand, rest, rfl, rfl⟩
  · exact List.forall_mem_cons.mpr ⟨(settled.isLeafOf number).isArithmetic, arithmetic⟩
  · obtain ⟨second, first, others⟩ :=
      List.forall_mem_cons.mp arithmetic |>.imp_right List.forall_mem_cons.mp
    exact List.forall_mem_cons.mpr ⟨⟨first, second⟩, others⟩
  · obtain ⟨below, others⟩ := List.forall_mem_cons.mp arithmetic
    refine List.forall_mem_cons.mpr ⟨⟨?_, below⟩, others⟩
    intro comma
    rw [show token.lexeme = "," from comma] at single
    revert single
    decide

/-- Several tokens do so, too. -/
theorem isArithmetic_of_run (settled : ∀ token ∈ tokens, token.Settled config)
    (arithmetic : ∀ tree ∈ stack, tree.IsArithmetic) (ran : run tokens stack = .ok after) :
    ∀ tree ∈ after, tree.IsArithmetic := by
  induction tokens generalizing stack with
  | nil =>
      cases ran
      exact arithmetic
  | cons token tokens ih =>
      rw [run_cons] at ran
      obtain ⟨middle, shifted, ran⟩ := exists_of_bind ran
      obtain ⟨here, later⟩ := List.forall_mem_cons.mp settled
      exact ih later (isArithmetic_of_shift here arithmetic shifted) ran

end Tree

theorem isArithmetic_of_parse {source : String} {tree : Tree}
    (read : parse config source = .ok (some tree)) : tree.IsArithmetic := by
  obtain ⟨tokens, e, scanned, formed, -, rfl, spelled⟩ := exists_written_of_parse read
  exact Expression.isArithmetic_tree formed.fitted
    (spelled ▸ Token.settled_of_mem_spellProducts (Token.settled_of_ofSource scanned))

theorem isArithmetic_of_parsePostfix {source : String} {trees : List Tree}
    (read : parsePostfix config source = .ok trees) : ∀ tree ∈ trees, tree.IsArithmetic := by
  obtain ⟨tokens, scanned, read⟩ := exists_of_bind read
  rw [Tree.ofPostfix_eq_run] at read
  obtain ⟨stack, ran, rfl⟩ := exists_of_map read
  intro tree member
  exact Tree.isArithmetic_of_run (Token.settled_of_ofSource scanned) (List.forall_mem_nil _) ran
    tree (List.mem_reverse.mp member)

namespace Evaluator

/-- **Integers only.** Integer arithmetic on a tree that was read, and in which commas only
join arguments, yields an integer or a truth value, or else a problem of one of four kinds. -/
theorem evaluate_integer {source : String} {tree : Tree}
    (read : parse config source = .ok (some tree) ∨
      ∃ trees, parsePostfix config source = .ok trees ∧ tree ∈ trees)
    (joins : tree.JoinsArguments false) :
    (∃ n, integer.evaluate tree = .ok (.int n)) ∨ (∃ b, integer.evaluate tree = .ok (.bool b)) ∨
      ∃ problem, integer.evaluate tree = .error (.problem problem) ∧
        problem.report.kind ∈
          [.divisionByZero, .domainError, .unknownFunction, .unknownConstant] := by
  have arithmetic : tree.IsArithmetic := by
    rcases read with read | ⟨trees, read, member⟩
    · exact isArithmetic_of_parse read
    · exact isArithmetic_of_parsePostfix read tree member
  have delivers := Tree.delivers_evaluate arithmetic joins
  rcases computed : integer.evaluate tree with failure | value
  · rw [computed] at delivers
    obtain ⟨problem, rfl⟩ := delivers
    refine .inr (.inr ⟨problem, rfl, ?_⟩)
    cases problem <;> simp [EvaluationProblem.report, Report.atToken]
  · rw [computed] at delivers
    cases delivers with
    | int n => exact .inl ⟨n, rfl⟩
    | bool b => exact .inr (.inl ⟨b, rfl⟩)

/-- In `gcd(4,6)==2` two arguments are joined, and the comparison yields a truth value. In
`2 3 < 4 , lcm 5 5 - %` a truth value is joined with an integer, and the remainder by zero is a
problem. -/
theorem evaluate_integer_comparison_and_remainder :
    let number (spelling : String) (n : Int) (position : Int) : Tree :=
      .leaf ⟨.number, spelling, some (.number (.int n)), position, none, false⟩
    let between (name : String) (position : Int) : Token :=
      ⟨.operator, name, none, position, some .infixed, false⟩
    let before (name : String) (position : Int) : Token :=
      ⟨.operator, name, none, position, some .prefixed, false⟩
    let comparison : Tree := .binary (between "==" 8)
      (.unary (before "gcd" 0) (.binary (between "," 5) (number "4" 4 4) (number "6" 6 6)))
      (number "2" 2 10)
    let remainder : Tree := .binary (between "%" 20)
      (.unary (before "lcm" 10) (.binary (between "," 8)
        (.binary (between "<" 4) (number "2" 2 0) (number "3" 3 2)) (number "4" 4 6)))
      (.binary (between "-" 18) (number "5" 5 14) (number "5" 5 16))
    (parse .standard "gcd(4,6)==2" = .ok (some comparison) ∧
      comparison.JoinsArguments false ∧ ∃ b, integer.evaluate comparison = .ok (.bool b)) ∧
    parsePostfix .standard "2 3 < 4 , lcm 5 5 - %" = .ok [remainder] ∧
      remainder.JoinsArguments false ∧
      ∃ problem, integer.evaluate remainder = .error (.problem problem) ∧
        problem.report.kind ∈
          [.divisionByZero, .domainError, .unknownFunction, .unknownConstant] := by
  intro number between before comparison remainder
  have infixRead : parse .standard "gcd(4,6)==2" = .ok (some comparison) := by cbv
  have postfixRead : parsePostfix .standard "2 3 < 4 , lcm 5 5 - %" = .ok [remainder] := by cbv
  have compared : integer.evaluate comparison = .ok (.bool true) := by cbv
  have failed : integer.evaluate remainder =
      .error (.problem (.divisionByZero (between "%" 20))) := by cbv
  have joined : comparison.JoinsArguments false ∧ remainder.JoinsArguments false := by decide
  refine ⟨⟨infixRead, joined.1, ?_⟩, postfixRead, joined.2, ?_⟩
  · rcases evaluate_integer (.inl infixRead) joined.1 with ⟨n, value⟩ | value | ⟨problem, value, -⟩
    · cases compared.symm.trans value
    · exact value
    · cases compared.symm.trans value
  · rcases evaluate_integer (.inr ⟨_, postfixRead, List.mem_singleton_self _⟩) joined.2 with
      ⟨n, value⟩ | ⟨b, value⟩ | problem
    · cases failed.symm.trans value
    · cases failed.symm.trans value
    · exact problem

end Evaluator

end Calculator
