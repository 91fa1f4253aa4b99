import Calculator.Proofs.Expression.Uniqueness
import Calculator.Proofs.Parse.Postfix
import Calculator.Proofs.Parse.Writing

/-!
# Writing a tree with brackets and reading it again

A tree of arithmetic is read from what the bracketing evaluator writes for it exactly if the
writing keeps its lexemes and its scopes (`parse_bracketed`). Where it does not, nothing else
with the same tree can be read either, since tokens and tree determine an expression.
-/

namespace Calculator

variable {config : Config}

namespace Tree

variable {operand tree : Tree} {operator : Token}

/-- What stands under one operator in a tree of arithmetic is one. -/
theorem Alike.exists_operand (alike : (unary operator operand).Alike tree) (plain : tree.Plain) :
    ∃ below : Tree, below.Plain ∧ operand.Alike below := by
  cases plain with
  | literal | between => cases alike
  | negation _ inside | factorial _ inside => exact ⟨_, inside, alike.2⟩

end Tree

namespace Expression

variable {e : Expression}

/-- An expression has no identifiers any more: they are constants or functions. -/
theorem kind_ne_identifier (formed : e.WellFormed config) :
    ∀ token ∈ e.tokens, token.kind ≠ .identifier := by
  obtain ⟨fitted, brackets⟩ := formed
  induction e with
  | leaf token =>
      intro other member
      rw [List.mem_singleton.mp member, show token.kind = .number from fitted]
      decide
  | bracketed opener inner closer ih =>
      simp only [tokens, List.mem_cons, List.mem_append, List.not_mem_nil, or_false]
      rintro token (rfl | inside | rfl)
      · simp [brackets.1.1]
      · exact ih fitted brackets.2.2 token inside
      · simp [brackets.2.1.1.1]
  | prefixed operator operand ih =>
      simp only [tokens, List.mem_cons]
      rintro token (rfl | inside)
      · rcases fitted.1 with role | role <;> simp [role.1]
      · exact ih fitted.2 brackets token inside
  | infixed left operator right leftIh rightIh =>
      simp only [tokens, List.mem_append, List.mem_cons]
      rintro token (inside | rfl | inside)
      · exact leftIh fitted.2.1 brackets.1 token inside
      · simp [fitted.1.1]
      · exact rightIh fitted.2.2 brackets.2 token inside
  | suffixed operand operator ih =>
      simp only [tokens, List.mem_append, List.mem_cons, List.not_mem_nil, or_false]
      rintro token (inside | rfl)
      · exact ih fitted.2 brackets token inside
      · simp [fitted.1.1]

/-- No operator of an expression with a tree of arithmetic is spelled `!=`. -/
theorem lexeme_ne_notEqual {tree : Tree} (formed : e.WellFormed config) (plain : tree.Plain)
    (alike : e.tree.Alike tree) :
    ∀ token ∈ e.tokens, token.kind = .operator → token.lexeme ≠ "!=" := by
  obtain ⟨fitted, brackets⟩ := formed
  induction e generalizing tree with
  | leaf token =>
      intro other member operator
      rw [List.mem_singleton.mp member, show token.kind = .number from fitted] at operator
      cases operator
  | bracketed opener inner closer ih =>
      simp only [tokens, List.mem_cons, List.mem_append, List.not_mem_nil, or_false]
      rintro token (rfl | inside | rfl) operator
      · exact absurd (brackets.1.1.symm.trans operator) (by decide)
      · exact ih plain alike fitted brackets.2.2 token inside operator
      · exact absurd (brackets.2.1.1.1.symm.trans operator) (by decide)
  | prefixed operator operand ih =>
      simp only [tokens, List.mem_cons]
      rintro token (rfl | inside) known spelled
      · rcases fitted.1 with ⟨-, -, name⟩ | ⟨-, -, sign⟩
        · rw [spelled] at name
          exact absurd name (by decide)
        · exact absurd (sign.symm.trans spelled) (by decide)
      · obtain ⟨below, sound, same⟩ := alike.exists_operand plain
        exact ih sound same fitted.2 brackets token inside known spelled
  | infixed left operator right leftIh rightIh =>
      cases plain with
      | literal | negation | factorial => cases alike
      | between name first second =>
          simp only [tokens, List.mem_append, List.mem_cons]
          rintro token (inside | rfl | inside) known spelled
          · exact leftIh first alike.2.1 fitted.2.1 brackets.1 token inside known spelled
          · rw [← alike.1, show token.infixed.lexeme = "!=" from spelled] at name
            exact absurd name (by decide)
          · exact rightIh second alike.2.2 fitted.2.2 brackets.2 token inside known spelled
  | suffixed operand operator ih =>
      simp only [tokens, List.mem_append, List.mem_cons, List.not_mem_nil, or_false]
      rintro token (inside | rfl) known spelled
      · obtain ⟨below, sound, same⟩ := alike.exists_operand plain
        exact ih sound same fitted.2 brackets token inside known spelled
      · have suffix := fitted.1.2.2
        rw [spelled] at suffix
        exact absurd suffix (by decide)

/-- A tree of arithmetic that was read has the literals of the text at its leaves. -/
theorem plain_tree (fitted : e.Fitted) (settled : ∀ token ∈ e.tokens, token.Settled config)
    (arithmetic : e.tree.Arithmetic) : e.tree.Plain := by
  induction e with
  | leaf token =>
      rcases (settled token List.mem_cons_self).isLeafOf fitted with literal | constant
      · exact .literal literal arithmetic.2
      · have some : token.value.isSome = true := arithmetic.1
        rw [constant.2.2.2.1] at some
        cases some
  | bracketed opener inner closer ih =>
      exact ih fitted (fun token member => settled token (by simp [tokens, member])) arithmetic
  | prefixed operator operand ih =>
      have inside := ih fitted.2 (fun token member => settled token (by simp [tokens, member]))
        arithmetic.2
      exact arithmetic.1.elim (fun name => .negation name inside) fun name => .factorial name inside
  | infixed left operator right leftIh rightIh =>
      exact .between arithmetic.1
        (leftIh fitted.2.1 (fun token member => settled token (by simp [tokens, member]))
          arithmetic.2.1)
        (rightIh fitted.2.2 (fun token member => settled token (by simp [tokens, member]))
          arithmetic.2.2)
  | suffixed operand operator ih =>
      have inside := ih fitted.2 (fun token member => settled token (by simp [tokens, member]))
        arithmetic.2
      exact arithmetic.1.elim (fun name => .negation name inside) fun name => .factorial name inside

end Expression

namespace Tree

variable {tree again : Tree}

theorem Plain.ofSource_infixText (plain : tree.Plain) (lexemes : tree.KeepsLexemes)
    (config : Config) :
    Token.ofSource config (String.ofList tree.infixText) = .ok (tree.writing 0).tokens := by
  have reads := plain.reads lexemes 0 (ends_nil tree)
  have scanned : Token.scan 0 tree.infixText = ((tree.writing 0).tokens, none) := by
    rw [Token.Reads, List.append_nil,
      Token.scan_of_finished (show Token.next _ [] = .finished from rfl), List.append_nil] at reads
    exact reads
  have same : (tree.writing 0).tokens.map (Token.classify config) = (tree.writing 0).tokens :=
    (List.map_congr_left fun token member => if_neg (Expression.kind_ne_identifier
      (plain.wellFormed_writing config 0) token member)).trans (List.map_id _)
  rw [Token.ofSource, Token.ofText, String.toList_ofList, scanned]
  exact congrArg Except.ok same

/-- A written tree that keeps its lexemes and scopes is read again. -/
theorem Plain.parse_infixText (plain : tree.Plain) (lexemes : tree.KeepsLexemes)
    (scopes : tree.KeepsScopes) (enough : 2 * tree.postorder.length ≤ config.maxDepth) :
    ∃ again, parse config (String.ofList tree.infixText) = .ok (some again) ∧
      again.outline = tree.outline := by
  refine ⟨(tree.writing 0).tree, ?_, plain.outline_writing 0⟩
  rw [parse, plain.ofSource_infixText lexemes config]
  exact Expression.ofTokens_tokens (plain.wellFormed_writing config 0)
    ((plain.conforming_writing_iff 0).mpr scopes) (Nat.le_trans (plain.depth_writing_le 0) enough)

/-- Only such a tree is. -/
theorem Plain.keeps_of_parse (plain : tree.Plain)
    (read : parse config (String.ofList tree.infixText) = .ok (some again))
    (same : again.outline.same tree.outline = true) : tree.KeepsLexemes ∧ tree.KeepsScopes := by
  obtain ⟨tokens, e, scanned, formed, conforming, rfl, spelled⟩ := exists_written_of_parse read
  have lexemes : tree.KeepsLexemes := by
    by_contra merged
    obtain ⟨token, member, operator, notEqual⟩ := plain.exists_notEqual merged 0 []
    have other : token.kind ≠ .identifier := by simp [operator]
    have found : token ∈ tokens := by
      rw [(Token.scan_of_ofSource scanned).2, String.toList_ofList, List.mem_map]
      exact ⟨token, List.append_nil tree.infixText ▸ member, if_neg other⟩
    have placed := Token.position_nonneg_of_ofSource scanned
    rw [← Token.filter_spellProducts placed, ← spelled] at found
    exact Expression.lexeme_ne_notEqual formed plain (alike_of_same same) token
      (List.mem_of_mem_filter found) operator notEqual
  refine ⟨lexemes, (plain.conforming_writing_iff 0).mp ?_⟩
  have formed' := plain.wellFormed_writing config 0
  have read : tokens = (tree.writing 0).tokens :=
    Except.ok.inj (scanned.symm.trans (plain.ofSource_infixText lexemes config))
  rw [read, Expression.spellProducts_tokens formed'] at spelled
  rw [← plain.outline_writing 0] at same
  rw [← Expression.eq_of_tokens formed formed' spelled (alike_of_same same)]
  exact conforming

end Tree

/-- **Writing with brackets and reading again.** A tree of arithmetic that was read can be
written with brackets. If in it no `!` stands in front of a `==`, no negation is the operand
of a factorial or the base of a power, and no factorial is an exponent, a tree with the same
operators and values is read from the text once the limit of nesting is twice the size of the
tree. Otherwise no such tree is read, whatever the settings. -/
theorem parse_bracketed {source : String} {tree : Tree}
    (read : parse config source = .ok (some tree)) (arithmetic : tree.Arithmetic) :
    ∃ text, Evaluator.bracketed.evaluate tree = .ok (.text text) ∧ ∀ wide : Config,
      (tree.KeepsLexemes → tree.KeepsScopes → 2 * tree.postorder.length ≤ wide.maxDepth →
        ∃ again, parse wide text = .ok (some again) ∧ again.outline = tree.outline) ∧
      ∀ again, parse wide text = .ok (some again) → again.outline.same tree.outline = true →
        tree.KeepsLexemes ∧ tree.KeepsScopes := by
  obtain ⟨tokens, e, scanned, formed, -, rfl, spelled⟩ := exists_written_of_parse read
  have settled : ∀ token ∈ e.tokens, token.Settled config :=
    spelled ▸ Token.settled_of_mem_spellProducts (Token.settled_of_ofSource scanned)
  have plain := Expression.plain_tree formed.fitted settled arithmetic
  exact ⟨_, plain.evaluate_bracketed, fun wide => ⟨plain.parse_infixText, fun again =>
    plain.keeps_of_parse⟩⟩

/-- The tree of `2^-3!` is read again from `(2^-(3!))`. -/
theorem parse_bracketed_negated_exponent :
    let number (n : Int) (position : Nat) : Tree :=
      .leaf ⟨.number, toString n, some (.number (.int n)), position, none, false⟩
    let tree : Tree := .binary ⟨.operator, "^", none, 1, some .infixed, false⟩ (number 2 0)
      (.unary ⟨.operator, "negate", none, 2, some .prefixed, false⟩
        (.unary ⟨.operator, "!", none, 4, some .suffixed, false⟩ (number 3 3)))
    (parse .standard "2^-3!" = .ok (some tree) ∧ tree.Arithmetic) ∧
      ∃ text again, Evaluator.bracketed.evaluate tree = .ok (.text text) ∧
        parse .standard text = .ok (some again) ∧ again.outline = tree.outline := by
  intro number tree
  have read : parse .standard "2^-3!" = .ok (some tree) := by cbv
  have arithmetic : tree.Arithmetic := by decide
  obtain ⟨text, written, reading⟩ := parse_bracketed read arithmetic
  obtain ⟨again, parsed, same⟩ := (reading .standard).1 (by decide) (by decide) (by decide)
  exact ⟨⟨read, arithmetic⟩, text, again, written, parsed, same⟩

/-- The tree of `(-3)^2` is written `(-(3)^2)`, which is read as the negation of a power. No
settings give the negation back to the base. -/
theorem lost_negated_base :
    let number (n : Int) (position : Nat) : Tree :=
      .leaf ⟨.number, toString n, some (.number (.int n)), position, none, false⟩
    let negation (position : Nat) (operand : Tree) : Tree :=
      .unary ⟨.operator, "negate", none, position, some .prefixed, false⟩ operand
    let power (position : Nat) (base exponent : Tree) : Tree :=
      .binary ⟨.operator, "^", none, position, some .infixed, false⟩ base exponent
    let tree : Tree := power 4 (negation 1 (number 3 2)) (number 2 5)
    parse .standard "(-3)^2" = .ok (some tree) ∧ tree.Arithmetic ∧
      Evaluator.bracketed.evaluate tree = .ok (.text "(-(3)^2)") ∧
      parse .standard "(-(3)^2)" = .ok (some (negation 1 (power 5 (number 3 3) (number 2 6)))) ∧
      ∀ (wide : Config) (again : Tree), parse wide "(-(3)^2)" = .ok (some again) →
        again.outline.same tree.outline = false := by
  intro number negation power tree
  have plain : tree.Plain := .between (by decide)
    (.negation rfl (.literal ⟨rfl, rfl, rfl, .decimal ['3'] none none, rfl⟩ (by decide)))
    (.literal ⟨rfl, rfl, rfl, .decimal ['2'] none none, rfl⟩ (by decide))
  have spelled : String.ofList tree.infixText = "(-(3)^2)" := by cbv
  refine ⟨by cbv, by decide, by cbv, by cbv, fun wide again parsed => ?_⟩
  rw [← spelled] at parsed
  refine Bool.eq_false_iff.mpr fun same => ?_
  have scopes : ¬ tree.KeepsScopes := by decide
  exact scopes (plain.keeps_of_parse parsed same).2

end Calculator
