import Calculator.Proofs.Expression.Chain
import Calculator.Proofs.Expression.Depth
import Calculator.Proofs.Parse.Soundness

/-!
# How deep a text may nest

The limit of nesting is a limit on the depth of written expressions: those within it are
read, and those beyond it are refused for nesting too deep. So the trees that are read are
narrow, apart from the left operands, which may go on without end
(`ofTokens_of_depth`).
-/

namespace Calculator

/-- How an operand hangs below its operator. -/
inductive Edge
  | only
  | left
  | right
deriving DecidableEq

/-- The ways from the root of a tree to its leaves. -/
inductive Tree.Path : Tree → List Edge → Prop
  | leaf (token : Token) : Path (.leaf token) []
  | only {operand : Tree} {path : List Edge} (operator : Token) (below : Path operand path) :
      Path (.unary operator operand) (.only :: path)
  | left {left : Tree} {path : List Edge} (operator : Token) (right : Tree)
      (below : Path left path) : Path (.binary operator left right) (.left :: path)
  | right {right : Tree} {path : List Edge} (operator : Token) (left : Tree)
      (below : Path right path) : Path (.binary operator left right) (.right :: path)

variable {config : Config}

/-- On a way to a leaf, every edge but those to left operands takes one level. -/
theorem Expression.countP_le_depth {e : Expression} {path : List Edge} (leads : e.tree.Path path) :
    path.countP (· ≠ .left) ≤ e.depth := by
  induction e generalizing path with
  | leaf token =>
      cases leads
      exact Nat.le_refl _
  | bracketed opener inner closer ih => exact Nat.le_succ_of_le (ih leads)
  | prefixed operator operand ih =>
      cases leads with
      | only _ below =>
          rw [List.countP_cons_of_pos (by decide), depth]
          exact Nat.succ_le_succ (ih below)
  | infixed left operator right leftIh rightIh =>
      cases leads with
      | left _ _ below =>
          rw [List.countP_cons_of_neg (by decide), depth]
          exact Nat.le_trans (leftIh below) (Nat.le_max_left _ _)
      | right _ _ below =>
          rw [List.countP_cons_of_pos (by decide), depth]
          exact Nat.le_trans (Nat.succ_le_succ (rightIh below)) (Nat.le_max_right _ _)
  | suffixed operand operator ih =>
      cases leads with
      | only _ below =>
          rw [List.countP_cons_of_pos (by decide), depth]
          exact Nat.le_succ_of_le (Nat.succ_le_succ (ih below))

/-- A text is refused for nesting too deep if an expression with its tokens does. -/
theorem tooDeep_parse {source : String} {tokens : List Token} {e : Expression}
    (scanned : Token.ofSource config source = .ok tokens)
    (spelled : e.tokens = Token.spellProducts tokens) (formed : e.WellFormed config)
    (conforming : e.Conforming) (deep : config.maxDepth < e.depth) :
    TooDeep config.maxDepth (parse config source) := by
  have refused := Expression.tooDeep_ofTokens formed conforming deep
  rw [spelled, Tree.ofTokens_spellProducts] at refused
  rw [parse, scanned]
  exact refused

/-- What is read from a text is no deeper than allowed. -/
theorem exists_shallow_of_parse {source : String} {tree : Tree}
    (read : parse config source = .ok (some tree)) :
    ∃ (tokens : List Token) (e : Expression), Token.ofSource config source = .ok tokens ∧
      e.WellFormed config ∧ e.Conforming ∧ e.tree = tree ∧
      e.tokens = Token.spellProducts tokens ∧ e.depth ≤ config.maxDepth := by
  obtain ⟨tokens, e, scanned, formed, conforming, same, spelled⟩ := exists_written_of_parse read
  refine ⟨tokens, e, scanned, formed, conforming, same, spelled, ?_⟩
  by_contra deep
  obtain ⟨token, refused⟩ := tooDeep_parse scanned spelled formed conforming (Nat.not_le.mp deep)
  rw [read] at refused
  cases refused

open Expression in
/-- **The limit of nesting.** The tokens of a conforming expression are read exactly if its
depth is within the limit, and otherwise they are refused for nesting too deep, also in a
text where products are implied. In a tree that is read, no way to a leaf has more edges
than the limit allows, those to left operands not counted. Chains that group to the left
are read however long they are. -/
theorem ofTokens_of_depth (config : Config) :
    (∀ e : Expression, e.WellFormed config → e.Conforming →
      (Tree.ofTokens config e.tokens = .ok (some e.tree) ↔ e.depth ≤ config.maxDepth) ∧
      (config.maxDepth < e.depth →
        TooDeep config.maxDepth (Tree.ofTokens config e.tokens) ∧
        ∀ source tokens, Token.ofSource config source = .ok tokens →
          e.tokens = Token.spellProducts tokens → TooDeep config.maxDepth (parse config source))) ∧
    (∀ source tree, parse config source = .ok (some tree) →
      ∀ path, tree.Path path → path.countP (· ≠ .left) ≤ config.maxDepth) ∧
    (∀ first steps, Chained config first steps → first.depth ≤ config.maxDepth →
      (∀ step ∈ steps, step.2.depth + 1 ≤ config.maxDepth) →
      Tree.ofTokens config (first.chain steps).tokens =
        .ok (some (steps.foldl (fun tree step => .binary step.1.infixed tree step.2.tree)
          first.tree))) ∧
    (∀ (first : Token) (steps : List (Token × Token)), first.kind = .number →
      (∀ step ∈ steps, step.2.kind = .number) → LeftAssociative (steps.map Prod.fst) →
      Tree.ofTokens config (first :: steps.flatMap fun step => [step.1, step.2]) =
        .ok (some (steps.foldl (fun tree step => .binary step.1.infixed tree (.leaf step.2))
          (.leaf first)))) := by
  have accepted : ∀ first steps, Chained config first steps → first.depth ≤ config.maxDepth →
      (∀ step ∈ steps, step.2.depth + 1 ≤ config.maxDepth) →
      Tree.ofTokens config (first.chain steps).tokens =
        .ok (some (steps.foldl (fun tree step => .binary step.1.infixed tree step.2.tree)
          first.tree)) := by
    intro first steps chained shallow operands
    rw [← tree_chain]
    exact ofTokens_tokens chained.wellFormed_chain chained.conforming_chain
      (depth_chain_le shallow operands)
  refine ⟨fun e formed conforming => ⟨⟨fun read => ?_, ?_⟩, fun deep => ⟨?_, ?_⟩⟩, ?_, accepted,
    fun first steps number numbers associative => ?_⟩
  · by_contra deep
    obtain ⟨token, refused⟩ := tooDeep_ofTokens formed conforming (Nat.not_le.mp deep)
    rw [read] at refused
    cases refused
  · exact ofTokens_tokens formed conforming
  · exact tooDeep_ofTokens formed conforming deep
  · exact fun source tokens scanned spelled => tooDeep_parse scanned spelled formed conforming deep
  · intro source tree read path leads
    obtain ⟨-, e, -, -, -, rfl, -, shallow⟩ := exists_shallow_of_parse read
    exact Nat.le_trans (countP_le_depth leads) shallow
  · have read := accepted _ _ (associative.chained number numbers) (Nat.zero_le _) (by
      intro step member
      obtain ⟨step, -, rfl⟩ := List.mem_map.mp member
      exact config.maxDepth_pos)
    rw [tokens_chain, List.flatMap_map, List.foldl_map] at read
    exact read

open Expression in
/-- With two levels `f(2!)` is refused, while `9-4-3-1` is read: three operators, but only
one level. -/
theorem ofTokens_of_depth_two_levels :
    let config : Config := { maxDepth := 2 }
    let number (n : Int) (position : Nat) : Token :=
      ⟨.number, toString n, some (.number (.int n)), position, none, false⟩
    let minus (position : Nat) : Token := ⟨.operator, "-", none, position, none, false⟩
    let call := prefixed ⟨.operator, "f", none, 0, some .prefixed, false⟩
      (.bracketed ⟨.bracket, "(", none, 1, none, false⟩
        (.suffixed (.leaf (number 2 2)) ⟨.operator, "!", none, 3, none, false⟩)
        ⟨.bracket, ")", none, 4, none, false⟩)
    let differences := [(minus 1, number 4 2), (minus 3, number 3 4), (minus 5, number 1 6)]
    (call.WellFormed config ∧ call.Conforming ∧ config.maxDepth < call.depth ∧
      LeftAssociative (differences.map Prod.fst)) ∧
      TooDeep 2 (Tree.ofTokens config call.tokens) ∧ TooDeep 2 (parse config "f(2!)") ∧
      ∃ tree, Tree.ofTokens config
        (number 9 0 :: differences.flatMap fun step => [step.1, step.2]) = .ok (some tree) ∧
        parse config "9-4-3-1" = .ok (some tree) ∧
        ∀ path, tree.Path path → path.countP (· ≠ .left) ≤ 2 := by
  intro config number minus call differences
  have formed : call.WellFormed config := by decide
  have conforming : call.Conforming := by decide
  have deep : config.maxDepth < call.depth := by decide
  have associative : LeftAssociative (differences.map Prod.fst) := by
    unfold LeftAssociative
    decide
  obtain ⟨exact', narrow, -, chains⟩ := ofTokens_of_depth config
  obtain ⟨refused, everywhere⟩ := (exact' call formed conforming).2 deep
  have scanned : Token.ofSource config "f(2!)" = .ok call.tokens := by cbv
  have spelled : call.tokens = Token.spellProducts call.tokens := by cbv
  have read : parse config "9-4-3-1" = .ok (some (differences.foldl
      (fun tree step => .binary step.1.infixed tree (.leaf step.2)) (.leaf (number 9 0)))) := by
    cbv
  refine ⟨⟨formed, conforming, deep, associative⟩, refused, everywhere _ _ scanned spelled,
    _, chains (number 9 0) differences rfl (by decide) associative, read, ?_⟩
  exact narrow _ _ read

end Calculator
