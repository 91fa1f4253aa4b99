import Calculator.Parse
import Calculator.Proofs.Expression.Gathering
import Calculator.Proofs.Tree.Completeness

/-!
# Reading what was written

The tokens of a conforming expression are read as its tree, if the limit of
nesting allows its depth (`Expression.parse_tokens`). Every stage is followed: the
brackets are nested, no product is implied, the suffixes move, and the tree is
built.
-/

namespace Calculator

namespace Expression

variable {config : Config} {e : Expression}

/-- Once the brackets are nested, no product is left to spell out. -/
theorem prepare_eq_relocateSuffixes (formed : e.WellFormed config)
    (flat : Item.nestingIn e.items ≤ config.maxDepth) :
    Group.prepare config e.tokens = Group.relocateSuffixes config { items := e.items } := by
  have complete : Group.insertProducts { items := e.items } = { items := e.items } := by
    rw [Group.insertProducts, Item.insertProductsIn_of_apart (apart_items formed.fitted)]
  rw [Group.prepare, Group.ofTokens_of_spells (spells_items formed) flat]
  change Group.relocateSuffixes config (Group.insertProducts { items := e.items }) = _
  rw [complete]

/-- The tokens of a conforming expression, prepared for building. -/
theorem prepare_tokens (formed : e.WellFormed config) (conforming : e.Conforming)
    (shallow : e.depth ≤ config.maxDepth) :
    Group.prepare config e.tokens = .ok { items := e.relocated } := by
  have flat : Item.nestingIn e.items ≤ config.maxDepth :=
    Nat.le_trans (nestingIn_items_le e) shallow
  rw [prepare_eq_relocateSuffixes formed flat,
    relocateSuffixes_items conforming formed.fitted shallow]

/-- The tree that is built from the items of a conforming expression. -/
theorem ofGroup_relocated (fitted : e.Fitted) (conforming : e.Conforming)
    (shallow : e.depth ≤ config.maxDepth) :
    Tree.ofGroup config { items := e.relocated } = .ok (some e.tree) := by
  have shallowTop : 0 + e.depth ≤ config.maxDepth := by omega
  have reading := Tree.read_relocated e conforming fitted 0 none [] shallowTop
    (fun _ impossible => absurd impossible (Option.not_mem_none _)) (.inl rfl)
  rw [List.append_nil, Tree.read_nil] at reading
  rw [Tree.ofGroup_eq_readOperand, Tree.readOperand, if_neg (Nat.not_lt_zero _), reading]
  rfl

theorem ofTokens_tokens (formed : e.WellFormed config) (conforming : e.Conforming)
    (shallow : e.depth ≤ config.maxDepth) :
    Tree.ofTokens config e.tokens = .ok (some e.tree) := by
  rw [Tree.ofTokens, prepare_tokens formed conforming shallow]
  exact ofGroup_relocated formed.fitted conforming shallow

/-- **Completeness of reading.** A conforming expression is read back from its
tokens, and so from every text that has these tokens. -/
theorem parse_tokens (config : Config) (e : Expression) (formed : e.WellFormed config)
    (conforming : e.Conforming) (shallow : e.depth ≤ config.maxDepth) :
    Tree.ofTokens config e.tokens = .ok (some e.tree) ∧
      ∀ source, Token.ofSource config source = .ok e.tokens →
        parse config source = .ok (some e.tree) := by
  have built := ofTokens_tokens formed conforming shallow
  refine ⟨built, fun source scanned => ?_⟩
  rw [parse, scanned]
  exact built

/-- In `-pi^(e-i)!` the power belongs to the suffix, and both to the sign. -/
theorem parse_tokens_sign_power_suffix :
    let pi : Token := ⟨.number, "pi", none, 1, none, true⟩
    let e : Token := ⟨.number, "e", none, 5, none, true⟩
    let i : Token := ⟨.number, "i", none, 7, none, true⟩
    let difference := infixed (.leaf e) ⟨.operator, "-", none, 6, none, false⟩ (.leaf i)
    let power := infixed (.leaf pi) ⟨.operator, "^", none, 3, none, false⟩
      (.bracketed ⟨.bracket, "(", none, 4, none, false⟩ difference
        ⟨.bracket, ")", none, 8, none, false⟩)
    let whole := prefixed ⟨.operator, "-", none, 0, none, false⟩
      (.suffixed power ⟨.operator, "!", none, 9, none, false⟩)
    (whole.WellFormed .standard ∧ whole.Conforming ∧ whole.depth ≤ Config.standard.maxDepth ∧
      Token.ofSource .standard "-pi^(e-i)!" = .ok whole.tokens) ∧
      Tree.ofTokens .standard whole.tokens = .ok (some whole.tree) ∧
      parse .standard "-pi^(e-i)!" = .ok (some whole.tree) := by
  intro pi e i difference power whole
  have formed : whole.WellFormed .standard := by decide
  have conforming : whole.Conforming := by decide
  have shallow : whole.depth ≤ Config.standard.maxDepth := by decide
  have scanned : Token.ofSource .standard "-pi^(e-i)!" = .ok whole.tokens := by cbv
  have reading := parse_tokens .standard whole formed conforming shallow
  exact ⟨⟨formed, conforming, shallow, scanned⟩, reading.1, reading.2 _ scanned⟩

end Expression

end Calculator
