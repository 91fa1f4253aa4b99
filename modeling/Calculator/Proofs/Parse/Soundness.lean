import Calculator.Proofs.Expression.Spelling
import Calculator.Proofs.Tree.Soundness

/-!
# What a tree says about its text

Whenever a text is read as a tree, there is a conforming expression with that tree,
and writing the expression gives the tokens of the text, with a product between
terms that merely touch (`exists_expression_of_parse`). The stages are taken back
one by one: the tree gives an expression of the items after suffixes have moved,
moving them back gives the bracket tree, and the brackets are closed as they were
in the text.
-/

namespace Calculator

open Item

variable {config : Config}

/-- The items of tokens are as raw as the tokens. -/
theorem Item.Spells.raw {T : Token → Prop} {items : List Item} {tokens : List Token}
    (spells : Spells config items tokens)
    (holds : ∀ token ∈ tokens, token.kind ≠ .bracket → token.isPendingSuffix = false → T token) :
    HoldsIn (Raw T) (fun _ _ => True) items := by
  induction spells with
  | nil => exact holdsIn_nil
  | single plain _ ih =>
      refine holdsIn_cons.mpr ⟨holds_single.mpr (holds _ List.mem_cons_self plain),
        (fun _ _ => trivial), ih fun token member => ?_⟩
      exact holds token (List.mem_cons_of_mem _ member)
  | group _ _ _ _ innerIh ih =>
      refine holdsIn_cons.mpr ⟨holds_group.mpr ⟨rfl, innerIh fun token member => ?_⟩,
        (fun _ _ => trivial), ih fun token member => ?_⟩
      · exact holds token (by simp [member])
      · exact holds token (by simp [member])

namespace Token

/-- What is no bracket and no suffix can be arranged. -/
theorem isArrangeable_of_classified {token : Token} (role : Classified config token)
    (plain : token.kind ≠ .bracket) (placed : token.isPendingSuffix = false) :
    token.IsArrangeable := by
  cases role with
  | literal role => exact .inl role.1
  | constant role => exact .inl role.1
  | function role => exact .inr (.inl role)
  | between role => exact .inr (.inr role)
  | behind role =>
      rw [isPendingSuffix, role.1, role.2.1, role.2.2] at placed
      cases placed
  | opener role => exact absurd role.1 plain
  | closer role => exact absurd role.1 plain

theorem classified_impliedProduct : Classified config impliedProduct :=
  .between isInfix_impliedProduct

/-- Spelling products out puts in operators only. -/
theorem classified_of_mem_spellProducts {tokens : List Token}
    (roles : ∀ token ∈ tokens, Classified config token) :
    ∀ token ∈ spellProducts tokens, Classified config token := by
  intro token member
  rcases mem_of_mem_spellProducts member with inside | rfl
  · exact roles token inside
  · exact classified_impliedProduct

end Token

namespace Group

theorem exists_gather_of_prepare {tokens : List Token} {group : Group}
    (prepared : prepare config tokens = .ok group) :
    ∃ nested frames, ofTokens config tokens = .ok nested ∧
      gather config.maxDepth 0 (insertProductsIn nested.items) = .ok frames ∧
        group.items = frames.items := by
  obtain ⟨nested, bracketed, prepared⟩ := exists_of_bind prepared
  obtain ⟨frames, gathered, rfl⟩ := exists_of_map prepared
  exact ⟨nested, frames, bracketed, gathered, rfl⟩

/-- The items of classified tokens can be arranged once products are spelled out. -/
theorem raw_of_ofTokens {tokens : List Token} {group : Group}
    (roles : ∀ token ∈ tokens, Token.Classified config token)
    (nested : ofTokens config tokens = .ok group) :
    HoldsIn (Raw Token.IsArrangeable) (fun _ _ => True) (insertProductsIn group.items) :=
  (spells_of_ofTokens nested).insertProducts.raw fun token member =>
    Token.isArrangeable_of_classified (Token.classified_of_mem_spellProducts roles token member)

/-- What is prepared for building is arranged, and stands for the tokens with their
products spelled out. -/
theorem exists_spells_of_prepare {tokens : List Token} {group : Group}
    (roles : ∀ token ∈ tokens, Token.Classified config token)
    (prepared : prepare config tokens = .ok group) :
    Tree.Arranged group.items ∧
      Spells config (restoredIn group.items) (Token.spellProducts tokens) := by
  obtain ⟨nested, frames, bracketed, gathered, same⟩ := exists_gather_of_prepare prepared
  have raw := raw_of_ofTokens roles bracketed
  have kept := restored_of_gather (raw.imp (fun _ => Raw.bracketed) fun _ _ _ => trivial) gathered
  rw [same]
  refine ⟨(arranged_of_gather raw gathered).items, ?_⟩
  rw [Frames.restoredIn_items, kept]
  exact (spells_of_ofTokens bracketed).insertProducts

end Group

namespace Tree

/-- Operators between operands have two of them and all others have one, and a sign
is called a negation. -/
def Shaped : Tree → Prop
  | leaf token => token.kind = .number
  | unary operator operand =>
    (operator.fixity = some .prefixed ∨ operator.fixity = some .suffixed) ∧
      operator.lexeme ≠ "-" ∧ operand.Shaped
  | binary operator left right =>
    operator.fixity = some .infixed ∧ Operator.isInfixed operator.lexeme = true ∧
      left.Shaped ∧ right.Shaped

/-- An expression becomes a tree in which every operator has its operands. -/
theorem shaped_tree {e : Expression} (fitted : e.Fitted) : e.tree.Shaped := by
  induction e with
  | leaf => exact fitted
  | bracketed _ _ _ ih => exact ih fitted
  | prefixed operator operand ih =>
      refine ⟨.inl (Expression.leading_fixity fitted.1), ?_, ih fitted.2⟩
      intro sign
      unfold Token.leading at sign
      rcases fitted.1 with role | role
      · rw [role.2.1, Option.isSome_some, if_pos rfl] at sign
        have name := role.2.2
        rw [sign] at name
        revert name
        decide
      · rw [role.2.1, Option.isSome_none, if_neg Bool.false_ne_true] at sign
        exact absurd (show "negate" = "-" from sign) (by decide)
  | infixed left operator right leftIh rightIh =>
      exact ⟨rfl, fitted.1.2.2, leftIh fitted.2.1, rightIh fitted.2.2⟩
  | suffixed operand operator ih =>
      refine ⟨.inr rfl, ?_, ih fitted.2⟩
      intro sign
      have suffix := fitted.1.2.2
      rw [show operator.lexeme = "-" from sign] at suffix
      revert suffix
      decide

end Tree

/-- A tree that is read from a text is the tree of a written expression with the tokens
of the text. -/
theorem exists_written_of_parse {source : String} {tree : Tree}
    (read : parse config source = .ok (some tree)) :
    ∃ (tokens : List Token) (e : Expression), Token.ofSource config source = .ok tokens ∧
      e.WellFormed config ∧ e.Conforming ∧ e.tree = tree ∧
      e.tokens = Token.spellProducts tokens := by
  obtain ⟨tokens, scanned, read⟩ := exists_of_bind read
  obtain ⟨group, prepared, read⟩ := exists_of_bind read
  obtain ⟨arranged, spells⟩ :=
    Group.exists_spells_of_prepare (Token.classified_of_ofSource scanned) prepared
  obtain ⟨e, fitted, conforming, same, rfl⟩ := Tree.exists_expression_of_ofGroup arranged read
  rw [← same, Expression.restoredIn_relocated fitted] at spells
  obtain ⟨written, resembles, closed, spelled⟩ := Expression.exists_written fitted conforming spells
  exact ⟨tokens, written, scanned, ⟨resembles.fitted, closed⟩, resembles.conforming,
    resembles.tree, spelled⟩

/-- **Soundness of reading.** A tree that is read from a text is the tree of a
conforming expression, which is written with the tokens of the text, in order,
and with products between terms that merely touch. -/
theorem exists_expression_of_parse {source : String} {tree : Tree}
    (read : parse config source = .ok (some tree)) :
    ∃ (tokens : List Token) (e : Expression), Token.ofSource config source = .ok tokens ∧
      e.WellFormed config ∧ e.Conforming ∧ e.tree = tree ∧ e.tokens = Token.spellProducts tokens ∧
      e.tokens.filter (fun token => !token.isSynthetic) = tokens ∧ tree.Shaped := by
  obtain ⟨tokens, e, scanned, formed, conforming, rfl, spelled⟩ := exists_written_of_parse read
  refine ⟨tokens, e, scanned, formed, conforming, rfl, spelled, ?_, Tree.shaped_tree formed.fitted⟩
  rw [spelled]
  exact Token.filter_spellProducts (Token.position_nonneg_of_ofSource scanned)

/-- In `-pi(e-i)!` the sign takes the constant only, and the suffix takes the
bracketed difference. -/
theorem exists_expression_of_parse_sign_and_suffix :
    let pi : Token := ⟨.number, "pi", none, 1, none, true⟩
    let e : Token := ⟨.number, "e", none, 4, none, true⟩
    let i : Token := ⟨.number, "i", none, 6, none, true⟩
    let tree : Tree :=
      .binary ⟨.operator, "*", none, -1, some .infixed, false⟩
        (.unary ⟨.operator, "negate", none, 0, some .prefixed, false⟩ (.leaf pi))
        (.unary ⟨.operator, "!", none, 8, some .suffixed, false⟩
          (.binary ⟨.operator, "-", none, 5, some .infixed, false⟩ (.leaf e) (.leaf i)))
    parse .standard "-pi(e-i)!" = .ok (some tree) ∧
      ∃ (tokens : List Token) (e : Expression),
        Token.ofSource .standard "-pi(e-i)!" = .ok tokens ∧ e.WellFormed .standard ∧
          e.Conforming ∧ e.tree = tree ∧ e.tokens = Token.spellProducts tokens ∧
          e.tokens.filter (fun token => !token.isSynthetic) = tokens ∧ tree.Shaped :=
  ⟨by cbv, exists_expression_of_parse (by cbv)⟩

end Calculator
