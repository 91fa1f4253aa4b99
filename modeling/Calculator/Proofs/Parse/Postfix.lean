import Calculator.Proofs.Parse.Soundness
import Calculator.Proofs.Tree.Rendering

/-!
# Writing a tree in postfix order and reading it again

What the postfix evaluator writes for a tree that was read is read as one tree with
the same operators, constants and values, exactly if no literal of the text went to
infinity; otherwise an operand is missing (`parsePostfix_of_parse`). The tree is
taken back to a written expression, whose tokens are those of the text. So its
tokens play the parts that writing asks for (`Expression.readable_tree`), and no
literal is gained or lost (`Expression.filterMap_value_tree`).
-/

namespace Calculator

variable {config : Config}

namespace Token

theorem settled_impliedProduct : Settled config impliedProduct :=
  ⟨classified_impliedProduct, fun _ => rfl, fun _ => rfl, (absurd · (by decide))⟩

theorem settled_of_mem_spellProducts {tokens : List Token}
    (settled : ∀ token ∈ tokens, Settled config token) :
    ∀ token ∈ spellProducts tokens, Settled config token := by
  intro token member
  rcases mem_of_mem_spellProducts member with inside | rfl
  · exact settled token inside
  · exact settled_impliedProduct

/-- Implied products have no value. -/
theorem filterMap_value_spellProducts (tokens : List Token) :
    (spellProducts tokens).filterMap value = tokens.filterMap value := by
  induction tokens with
  | nil => rfl
  | cons token rest ih =>
      rw [spellProducts]
      split
      · rw [List.filterMap_cons, List.filterMap_cons, ih, List.filterMap_cons]
        rfl
      · rw [List.filterMap_cons, List.filterMap_cons, ih]

/-- Overflows can be seen in the values. -/
theorem exists_overflows_iff {tokens : List Token} :
    (∃ token ∈ tokens, token.Overflows) ↔
      Literal.number (.float (.infinity false)) ∈ tokens.filterMap value :=
  List.mem_filterMap.symm

/-- A number of a text is a leaf. -/
theorem Settled.isLeafOf {token : Token} (settled : Settled config token)
    (number : token.kind = .number) : token.IsLeafOf config := by
  cases settled.classified with
  | literal role => exact .inl role
  | constant role => exact .inr role
  | function role | between role | behind role | opener role | closer role =>
      have other := role.1
      rw [number] at other
      cases other

theorem value_leading (token : Token) : token.leading.value = token.value := by
  unfold leading
  split <;> rfl

/-- A sign and a function take one operand, the sign as the negation. -/
theorem Settled.takesOne_leading {token : Token} (settled : Settled config token)
    (negation : config.isConstant "negate" = false) (role : token.IsFunction ∨ token.IsSign) :
    token.leading.TakesOne config := by
  have valueless := settled.valueless (kind_ne_number_of_leading role)
  have operative := settled.operative (kind_ne_number_of_leading role)
  unfold leading
  rcases role with ⟨kind, fixity, name⟩ | ⟨kind, fixity, -⟩
  · rw [fixity, Option.isSome_some, if_pos rfl]
    exact ⟨kind, valueless, operative, .inl ⟨fixity, name, settled.free fixity⟩⟩
  · rw [fixity, Option.isSome_none, if_neg Bool.false_ne_true]
    have name : isName "negate" = true := by decide
    exact ⟨kind, valueless, operative, .inl ⟨rfl, name, negation⟩⟩

theorem Settled.takesOne_suffixed {token : Token} (settled : Settled config token)
    (role : token.IsSuffix) : token.suffixed.TakesOne config := by
  have other : token.kind ≠ .number := by simp [role.1]
  exact ⟨role.1, settled.valueless other, settled.operative other, .inr ⟨rfl, role.2.2⟩⟩

theorem Settled.takesTwo_infixed {token : Token} (settled : Settled config token)
    (role : token.IsInfix) : token.infixed.TakesTwo := by
  have other : token.kind ≠ .number := by simp [role.1]
  exact ⟨role.1, settled.valueless other, settled.operative other, rfl, role.2.2⟩

end Token

namespace Expression

variable {e : Expression}

/-- The tree of an expression that was written with the tokens of a text can be
written and read again. -/
theorem readable_tree (negation : config.isConstant "negate" = false) (fitted : e.Fitted)
    (settled : ∀ token ∈ e.tokens, token.Settled config) : e.tree.Readable config := by
  induction e with
  | leaf token => exact .leaf ((settled token List.mem_cons_self).isLeafOf fitted)
  | bracketed opener inner closer ih =>
      exact ih fitted fun token member => settled token (by simp [tokens, member])
  | prefixed operator operand ih =>
      refine .unary ?_ (ih fitted.2 fun token member => settled token (by simp [tokens, member]))
      exact (settled operator List.mem_cons_self).takesOne_leading negation fitted.1
  | infixed left operator right leftIh rightIh =>
      refine .binary ?_
        (leftIh fitted.2.1 fun token member => settled token (by simp [tokens, member]))
        (rightIh fitted.2.2 fun token member => settled token (by simp [tokens, member]))
      exact (settled operator (by simp [tokens])).takesTwo_infixed fitted.1
  | suffixed operand operator ih =>
      refine .unary ?_ (ih fitted.2 fun token member => settled token (by simp [tokens, member]))
      exact (settled operator (by simp [tokens])).takesOne_suffixed fitted.1

/-- The values in a tree are those of the tokens, in order. -/
theorem filterMap_value_tree (formed : e.WellFormed config)
    (settled : ∀ token ∈ e.tokens, token.Settled config) :
    e.tree.postorder.filterMap Token.value = e.tokens.filterMap Token.value := by
  obtain ⟨fitted, brackets⟩ := formed
  induction e with
  | leaf token => rfl
  | bracketed opener inner closer ih =>
      have opened : opener.value = none :=
        (settled opener List.mem_cons_self).valueless (by simp [brackets.1.1])
      have closed : closer.value = none :=
        (settled closer (by simp [tokens])).valueless (by simp [brackets.2.1.1.1])
      have inside := ih (fun token member => settled token (by simp [tokens, member])) fitted
        brackets.2.2
      simp [tree, tokens, inside, opened, closed]
  | prefixed operator operand ih =>
      have leads : operator.leading.value = none :=
        operator.value_leading.trans
          ((settled operator List.mem_cons_self).valueless
            (Token.kind_ne_number_of_leading fitted.1))
      have inside := ih (fun token member => settled token (by simp [tokens, member])) fitted.2
        brackets
      simp [tree, tokens, Tree.postorder, inside, leads, ← operator.value_leading]
  | infixed left operator right leftIh rightIh =>
      have between : operator.value = none :=
        (settled operator (by simp [tokens])).valueless (by simp [fitted.1.1])
      have first := leftIh (fun token member => settled token (by simp [tokens, member])) fitted.2.1
        brackets.1
      have second := rightIh (fun token member => settled token (by simp [tokens, member]))
        fitted.2.2 brackets.2
      simp [tree, tokens, Tree.postorder, first, second, Token.infixed, between]
  | suffixed operand operator ih =>
      have behind : operator.value = none :=
        (settled operator (by simp [tokens])).valueless (by simp [fitted.1.1])
      have inside := ih (fun token member => settled token (by simp [tokens, member])) fitted.2
        brackets
      simp [tree, tokens, Tree.postorder, inside, Token.suffixed, behind]

end Expression

theorem parsePostfix_eq {source : String} {tokens : List Token}
    (scanned : Token.ofSource config source = .ok tokens) :
    parsePostfix config source = (Tree.run tokens []).map List.reverse := by
  rw [parsePostfix, scanned]
  exact Tree.ofPostfix_eq_run tokens

/-- **Writing and reading again.** A tree that was read can be written in postfix
order. Reading this gives the same tree up to places and the spelling of literals
exactly if no literal went to infinity; otherwise an operand is missing. -/
theorem parsePostfix_of_parse {source : String} {tree : Tree} (shown : config.Shown)
    (read : parse config source = .ok (some tree)) :
    ∃ tokens text, Token.ofSource config source = .ok tokens ∧
      Evaluator.postfixed.evaluate tree = .ok (.text text) ∧
      ((∃ again, parsePostfix config text = .ok [again] ∧ again.essence = tree.essence ∧
          again.outline = tree.outline) ↔ ∀ token ∈ tokens, ¬ token.Overflows) ∧
      ((∃ token ∈ tokens, token.Overflows) →
        ∃ token, parsePostfix config text = .error (.missingOperand token .left)) := by
  obtain ⟨tokens, e, scanned, formed, -, rfl, spelled⟩ := exists_written_of_parse read
  have settled : ∀ token ∈ e.tokens, token.Settled config :=
    spelled ▸ Token.settled_of_mem_spellProducts (Token.settled_of_ofSource scanned)
  have readable : e.tree.Readable config :=
    Expression.readable_tree (shown.isConstant_eq_false (by decide)) formed.fitted settled
  have overflows : (∃ token ∈ e.tree.postorder, token.Overflows) ↔
      ∃ token ∈ tokens, token.Overflows := by
    rw [Token.exists_overflows_iff, Token.exists_overflows_iff,
      Expression.filterMap_value_tree formed settled, spelled,
      Token.filterMap_value_spellProducts]
  obtain ⟨written, rescanned, same⟩ := Tree.exists_ofSource_respelled readable
  have lost : (∃ token ∈ tokens, token.Overflows) →
      ∃ token, parsePostfix config e.tree.respelled = .error (.missingOperand token .left) := by
    intro exceeds
    obtain ⟨token, failed⟩ := Tree.exists_missing_of_overflows
      (shown.isConstant_eq_false (by decide)) readable (overflows.mpr exceeds) same
    rw [parsePostfix_eq rescanned, failed]
    exact ⟨token, rfl⟩
  refine ⟨tokens, e.tree.respelled, scanned, Tree.evaluate_postfixed shown readable,
    ⟨?_, ?_⟩, lost⟩
  · rintro ⟨again, parsed, -⟩ token member infinite
    obtain ⟨other, failed⟩ := lost ⟨token, member, infinite⟩
    rw [parsed] at failed
    cases failed
  · intro finite
    obtain ⟨again, ran, essence⟩ := Tree.exists_run_echo readable
      (fun token member infinite =>
        have ⟨other, inside, exceeds⟩ := overflows.mp ⟨token, member, infinite⟩
        finite other inside exceeds) same []
    refine ⟨again, ?_, essence, ?_⟩
    · rw [parsePostfix_eq rescanned, ran]
      rfl
    · rw [← again.outline_essence, essence, e.tree.outline_essence]

/-- The tree of `0.0-pi` is read again; that of `1e999-pi` is not. -/
theorem parsePostfix_of_parse_zero_and_overflow :
    let difference (spelling : String) (value : Binary64) (minus : Nat) : Tree :=
      .binary ⟨.operator, "-", none, minus, some .infixed, false⟩
        (.leaf ⟨.number, spelling, some (.number (.float value)), 0, none, false⟩)
        (.leaf ⟨.number, "pi", none, minus + 1, none, true⟩)
    let zero := difference "0.0" (.zero false) 3
    let infinite := difference "1e999" (.infinity false) 5
    Config.standard.Shown ∧ parse .standard "0.0-pi" = .ok (some zero) ∧
      parse .standard "1e999-pi" = .ok (some infinite) ∧
      (∃ text again, Evaluator.postfixed.evaluate zero = .ok (.text text) ∧
        parsePostfix .standard text = .ok [again] ∧ again.essence = zero.essence) ∧
      ∃ text token, Evaluator.postfixed.evaluate infinite = .ok (.text text) ∧
        parsePostfix .standard text = .error (.missingOperand token .left) := by
  intro difference zero infinite
  have shown : Config.standard.Shown := by decide
  have zeroRead : parse .standard "0.0-pi" = .ok (some zero) := by cbv
  have infiniteRead : parse .standard "1e999-pi" = .ok (some infinite) := by cbv
  refine ⟨shown, zeroRead, infiniteRead, ?_, ?_⟩
  · obtain ⟨tokens, text, scanned, written, again, -⟩ := parsePostfix_of_parse shown zeroRead
    obtain ⟨tree, parsed, same, -⟩ := again.mpr fun token member => by
      have known : Token.ofSource .standard "0.0-pi" = .ok
          [⟨.number, "0.0", some (.number (.float (.zero false))), 0, none, false⟩,
            ⟨.operator, "-", none, 3, none, false⟩, ⟨.number, "pi", none, 4, none, true⟩] := by cbv
      rw [Except.ok.inj (scanned.symm.trans known)] at member
      revert token
      decide
    exact ⟨text, tree, written, parsed, same⟩
  · obtain ⟨tokens, text, scanned, written, -, lost⟩ := parsePostfix_of_parse shown infiniteRead
    have known : Token.ofSource .standard "1e999-pi" = .ok
        [⟨.number, "1e999", some (.number (.float (.infinity false))), 0, none, false⟩,
          ⟨.operator, "-", none, 5, none, false⟩, ⟨.number, "pi", none, 6, none, true⟩] := by cbv
    rw [Except.ok.inj (scanned.symm.trans known)] at lost
    obtain ⟨token, failed⟩ := lost (by decide)
    exact ⟨text, token, written, failed⟩

end Calculator
