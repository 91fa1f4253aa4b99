import Calculator.Proofs.Expression.Outside
import Calculator.Proofs.Parse.Soundness

/-!
# Tokens and tree determine an expression

Two written expressions with the same tokens may have different trees, as a sign in front
of a power has. If their operators also stand over operands in the same way, they are the
same expression (`Expression.eq_of_tokens`): brackets are told from the tokens outside of
them, and where a left operand ends is told from how many numbers it has. No product is
implied between the tokens of an expression (`Expression.spellProducts_tokens`).
-/

namespace Calculator

variable {config : Config}

namespace Tree

/-- Trees that differ in their leaves and in the places of their operators only. -/
def Alike : Tree → Tree → Prop
  | leaf _, leaf _ => True
  | unary f x, unary g y => f.lexeme = g.lexeme ∧ x.Alike y
  | binary f x y, binary g z w => f.lexeme = g.lexeme ∧ x.Alike z ∧ y.Alike w
  | _, _ => False

/-- How many leaves a tree has. -/
def leaves : Tree → Nat
  | leaf _ => 1
  | unary _ operand => operand.leaves
  | binary _ left right => left.leaves + right.leaves

theorem Alike.leaves_eq {first second : Tree} (alike : first.Alike second) :
    first.leaves = second.leaves := by
  induction first generalizing second with
  | leaf => cases second <;> first | rfl | cases alike
  | unary _ _ ih =>
      cases second with
      | unary => exact (ih alike.2 :)
      | _ => cases alike
  | binary _ _ _ leftIh rightIh =>
      cases second with
      | binary => exact congrArg₂ (· + ·) (leftIh alike.2.1) (rightIh alike.2.2)
      | _ => cases alike

/-- Trees of the same outline are alike. -/
theorem alike_of_same {first second : Tree} (same : first.outline.same second.outline = true) :
    first.Alike second := by
  induction first generalizing second with
  | leaf token =>
      cases second with
      | leaf => trivial
      | _ => cases value : token.value <;> simp [outline, Outline.same, value] at same
  | unary operator operand ih =>
      cases second with
      | leaf token => cases value : token.value <;> simp [outline, Outline.same, value] at same
      | unary =>
          simp only [outline, Outline.same, Bool.and_eq_true, beq_iff_eq] at same
          exact ⟨same.1, ih same.2⟩
      | binary => cases same
  | binary operator left right leftIh rightIh =>
      cases second with
      | leaf token => cases value : token.value <;> simp [outline, Outline.same, value] at same
      | unary => cases same
      | binary =>
          simp only [outline, Outline.same, Bool.and_eq_true, beq_iff_eq] at same
          exact ⟨same.1.1, leftIh same.1.2, rightIh same.2⟩

end Tree

namespace Expression

variable {e f : Expression}

/-- The number of numbers among tokens. -/
def numbers (tokens : List Token) : Nat := tokens.countP (·.kind == .number)

theorem numbers_tokens (formed : e.WellFormed config) : numbers e.tokens = e.tree.leaves := by
  obtain ⟨fitted, brackets⟩ := formed
  induction e with
  | leaf token =>
      have number : token.kind = .number := fitted
      simp [numbers, tokens, tree, Tree.leaves, number]
  | bracketed opener inner closer ih =>
      have inside := ih fitted brackets.2.2
      simpa [numbers, tokens, tree, brackets.1.1, brackets.2.1.1.1] using inside
  | prefixed operator operand ih =>
      have inside := ih fitted.2 brackets
      simpa [numbers, tokens, tree, Tree.leaves, Token.kind_ne_number_of_leading fitted.1]
        using inside
  | infixed left operator right leftIh rightIh =>
      have first := leftIh fitted.2.1 brackets.1
      have second := rightIh fitted.2.2 brackets.2
      simp only [numbers] at first second
      simp [numbers, tokens, tree, Tree.leaves, fitted.1.1, first, second]
  | suffixed operand operator ih =>
      have inside := ih fitted.2 brackets
      simp only [numbers] at inside
      simp [numbers, tokens, tree, Tree.leaves, fitted.1.1, inside]

/-- Behind its last number an expression has closing brackets and suffixes only. -/
theorem exists_last_number (formed : e.WellFormed config) :
    ∃ front number back, e.tokens = front ++ number :: back ∧ number.kind = .number ∧
      ∀ token ∈ back, token.IsCloser ∨ token.IsSuffix := by
  obtain ⟨fitted, brackets⟩ := formed
  induction e with
  | leaf token => exact ⟨[], token, [], rfl, fitted, List.forall_mem_nil _⟩
  | bracketed opener inner closer ih =>
      obtain ⟨front, number, back, same, known, behind⟩ := ih fitted brackets.2.2
      refine ⟨opener :: front, number, back ++ [closer], by simp [tokens, same], known, ?_⟩
      intro token member
      rcases List.mem_append.mp member with inside | last
      · exact behind token inside
      · rw [List.mem_singleton.mp last]
        exact .inl brackets.2.1.1
  | prefixed operator operand ih =>
      obtain ⟨front, number, back, same, rest⟩ := ih fitted.2 brackets
      exact ⟨operator :: front, number, back, by simp [tokens, same], rest⟩
  | infixed left operator right _ ih =>
      obtain ⟨front, number, back, same, rest⟩ := ih fitted.2.2 brackets.2
      exact ⟨left.tokens ++ operator :: front, number, back, by simp [tokens, same], rest⟩
  | suffixed operand operator ih =>
      obtain ⟨front, number, back, same, known, behind⟩ := ih fitted.2 brackets
      refine ⟨front, number, back ++ [operator], by simp [tokens, same], known, ?_⟩
      intro token member
      rcases List.mem_append.mp member with inside | last
      · exact behind token inside
      · rw [List.mem_singleton.mp last]
        exact .inr fitted.1

/-- An operator between operands has a number behind it. -/
theorem numbers_pos_of_isInfix (formed : e.WellFormed config) {front back : List Token}
    {operator : Token} (role : operator.IsInfix) (same : e.tokens = front ++ operator :: back) :
    0 < numbers back := by
  obtain ⟨before, number, behind, split, known, last⟩ := exists_last_number formed
  rw [same] at split
  rcases List.append_eq_append_iff.mp split with ⟨between, rfl, tail⟩ | ⟨between, rfl, tail⟩
  · cases between with
    | nil =>
        obtain rfl := (List.cons.inj tail).1
        rw [role.1] at known
        cases known
    | cons first between =>
        rw [(List.cons.inj tail).2, numbers, List.countP_pos_iff]
        exact ⟨number, by simp, by simp [known]⟩
  · cases between with
    | nil =>
        obtain rfl := (List.cons.inj tail).1
        rw [role.1] at known
        cases known
    | cons first between =>
        rw [List.cons_append, List.cons.injEq] at tail
        have member : operator ∈ behind := by simp [tail.2]
        rcases last operator member with closer | suffix
        · exact absurd (role.1.symm.trans closer.1) (by decide)
        · have between := role.2.2
          rw [Operator.isInfixed_eq_false suffix.2.2] at between
          cases between

/-- Of two left operands with equally many numbers none is longer. -/
theorem append_infix_inj {left left' : Expression} (formed : left.WellFormed config)
    (formed' : left'.WellFormed config) {operator operator' : Token} (role : operator.IsInfix)
    (role' : operator'.IsInfix) (count : left.tree.leaves = left'.tree.leaves)
    {right right' : List Token}
    (same : left.tokens ++ operator :: right = left'.tokens ++ operator' :: right') :
    left.tokens = left'.tokens ∧ operator = operator' ∧ right = right' := by
  rw [← numbers_tokens formed, ← numbers_tokens formed'] at count
  have between : left.tokens = left'.tokens := by
    rcases List.append_eq_append_iff.mp same with ⟨_ | ⟨first, more⟩, split, tail⟩ |
      ⟨_ | ⟨first, more⟩, split, tail⟩
    · rw [split, List.append_nil]
    · obtain ⟨rfl, -⟩ := List.cons.inj tail
      have some := numbers_pos_of_isInfix formed' role split
      rw [split] at count
      simp only [numbers, List.countP_append, List.countP_cons] at count some
      omega
    · rw [split, List.append_nil]
    · obtain ⟨rfl, -⟩ := List.cons.inj tail
      have some := numbers_pos_of_isInfix formed role' split
      rw [split] at count
      simp only [numbers, List.countP_append, List.countP_cons] at count some
      omega
  rw [between] at same
  exact ⟨between, List.cons.inj (List.append_cancel_left same)⟩

theorem uncovered_eq (formed : e.WellFormed config) (formed' : f.WellFormed config)
    (same : e.tokens = f.tokens) : e.uncovered = f.uncovered := by
  have first := outside_tokens formed 0 []
  have second := outside_tokens formed' 0 []
  rw [same] at first
  simpa using first.symm.trans second

/-- Only brackets around everything leave nothing outside of them. -/
theorem uncovered_bracketed {opener closer : Token} {inner : Expression}
    (formed : e.WellFormed config)
    (formed' : (bracketed opener inner closer).WellFormed config)
    (same : e.tokens = (bracketed opener inner closer).tokens) : e.uncovered = [] :=
  uncovered_eq formed formed' same

/-- An expression with the tokens of a bracketed one is bracketed. -/
theorem exists_bracketed {opener closer : Token} {inner : Expression}
    (formed : (bracketed opener inner closer).WellFormed config) (formed' : f.WellFormed config)
    (same : (bracketed opener inner closer).tokens = f.tokens) :
    ∃ inner', f = .bracketed opener inner' closer ∧ inner.tokens = inner'.tokens := by
  have bare := uncovered_bracketed formed' formed same.symm
  cases f with
  | bracketed opener' inner' closer' =>
      obtain ⟨rfl, behind⟩ := List.cons.inj same
      obtain ⟨content, last⟩ := List.append_inj' behind rfl
      obtain rfl := List.singleton_inj.mp last
      exact ⟨inner', rfl, content⟩
  | _ => simp [uncovered] at bare

/-- An operator before its operand is called differently from one behind it. -/
theorem leading_ne_suffixed {operator operator' : Token}
    (role : operator.IsFunction ∨ operator.IsSign) (role' : operator'.IsSuffix) :
    operator.leading.lexeme ≠ operator'.suffixed.lexeme := by
  intro same
  have suffix : Operator.isSuffixed operator.leading.lexeme = true := same ▸ role'.2.2
  rcases role with ⟨-, fixity, name⟩ | ⟨-, fixity, -⟩
  · rw [Token.leading, fixity, Option.isSome_some, if_pos rfl,
      Operator.isSuffixed_of_isName name] at suffix
    cases suffix
  · rw [Token.leading, fixity, Option.isSome_none, if_neg Bool.false_ne_true] at suffix
    exact absurd (show Operator.isSuffixed "negate" = true from suffix) (by decide)

/-- Tokens and tree determine an expression. -/
theorem eq_of_tokens (formed : e.WellFormed config) (formed' : f.WellFormed config)
    (same : e.tokens = f.tokens) (alike : e.tree.Alike f.tree) : e = f := by
  induction e generalizing f with
  | bracketed opener inner closer ih =>
      obtain ⟨inner', rfl, content⟩ := exists_bracketed formed formed' same
      have inside : inner.WellFormed config := ⟨formed.fitted, formed.bracketed.2.2⟩
      have inside' : inner'.WellFormed config := ⟨formed'.fitted, formed'.bracketed.2.2⟩
      rw [ih inside inside' content alike]
  | leaf token =>
      cases f with
      | leaf token' => rw [List.singleton_inj.mp same]
      | bracketed =>
          have bare := uncovered_bracketed formed formed' same
          simp [uncovered] at bare
      | _ => cases alike
  | prefixed operator operand ih =>
      cases f with
      | prefixed operator' operand' =>
          obtain ⟨rfl, behind⟩ := List.cons.inj same
          rw [ih ⟨formed.fitted.2, formed.bracketed⟩ ⟨formed'.fitted.2, formed'.bracketed⟩ behind
            alike.2]
      | suffixed => exact absurd alike.1 (leading_ne_suffixed formed.fitted.1 formed'.fitted.1)
      | bracketed =>
          have bare := uncovered_bracketed formed formed' same
          simp [uncovered] at bare
      | _ => cases alike
  | infixed left operator right leftIh rightIh =>
      cases f with
      | infixed left' operator' right' =>
          have first : left.WellFormed config := ⟨formed.fitted.2.1, formed.bracketed.1⟩
          have first' : left'.WellFormed config := ⟨formed'.fitted.2.1, formed'.bracketed.1⟩
          obtain ⟨front, rfl, behind⟩ := append_infix_inj first first' formed.fitted.1
            formed'.fitted.1 alike.2.1.leaves_eq same
          rw [leftIh first first' front alike.2.1,
            rightIh ⟨formed.fitted.2.2, formed.bracketed.2⟩
              ⟨formed'.fitted.2.2, formed'.bracketed.2⟩ behind alike.2.2]
      | bracketed =>
          have bare := uncovered_bracketed formed formed' same
          simp [uncovered] at bare
      | _ => cases alike
  | suffixed operand operator ih =>
      cases f with
      | suffixed operand' operator' =>
          obtain ⟨front, last⟩ := List.append_inj' same rfl
          obtain rfl := List.singleton_inj.mp last
          rw [ih ⟨formed.fitted.2, formed.bracketed⟩ ⟨formed'.fitted.2, formed'.bracketed⟩ front
            alike.2]
      | prefixed =>
          exact absurd alike.1.symm (leading_ne_suffixed formed'.fitted.1 formed.fitted.1)
      | bracketed =>
          have bare := uncovered_bracketed formed formed' same
          simp [uncovered] at bare
      | _ => cases alike

/-- No product is implied between the tokens of an expression. -/
theorem spellProducts_append_tokens (formed : e.WellFormed config) (rest : List Token)
    (quiet : rest.head?.any Token.startsTerm = false) :
    Token.spellProducts (e.tokens ++ rest) = e.tokens ++ Token.spellProducts rest := by
  obtain ⟨fitted, brackets⟩ := formed
  induction e generalizing rest with
  | leaf token =>
      rw [tokens, List.singleton_append, Token.spellProducts, quiet, Bool.and_false,
        if_neg Bool.false_ne_true]
      rfl
  | bracketed opener inner closer ih =>
      have closed : (closer :: rest).head?.any Token.startsTerm = false :=
        Token.startsTerm_of_isCloser brackets.2.1.1
      rw [tokens, List.cons_append, List.append_assoc, List.singleton_append,
        Token.spellProducts_opener brackets.1, ih _ closed fitted brackets.2.2,
        Token.spellProducts_closer brackets.2.1.1, Token.spellBehind, quiet,
        if_neg Bool.false_ne_true]
      simp
  | prefixed operator operand ih =>
      have open' : operator.endsTerm = false := by
        rcases fitted.1 with ⟨kind, -, name⟩ | ⟨kind, -, sign⟩
        · simp [Token.endsTerm, kind, Operator.isSuffixed_of_isName name]
        · simp only [Token.endsTerm, kind, sign]
          decide
      rw [tokens, List.cons_append, Token.spellProducts_cons open',
        ih rest quiet fitted.2 brackets, List.cons_append]
  | infixed left operator right leftIh rightIh =>
      obtain ⟨kind, fixity, known⟩ := fitted.1
      have first : (operator :: (right.tokens ++ rest)).head?.any Token.startsTerm = false := by
        simp [Token.startsTerm, kind, fixity]
      have open' : operator.endsTerm = false := by
        cases suffix : Operator.isSuffixed operator.lexeme with
        | false => simp [Token.endsTerm, kind, suffix]
        | true =>
            rw [Operator.isInfixed_eq_false suffix] at known
            cases known
      rw [tokens, List.append_assoc, List.cons_append, leftIh _ first fitted.2.1 brackets.1,
        Token.spellProducts_cons open', rightIh rest quiet fitted.2.2 brackets.2]
      simp
  | suffixed operand operator ih =>
      have first : (operator :: rest).head?.any Token.startsTerm = false := by
        simp [Token.startsTerm, fitted.1.1, fitted.1.2.1]
      rw [tokens, List.append_assoc, List.singleton_append, ih _ first fitted.2 brackets,
        Token.spellProducts, quiet, Bool.and_false, if_neg Bool.false_ne_true]
      simp

theorem spellProducts_tokens (formed : e.WellFormed config) :
    Token.spellProducts e.tokens = e.tokens := by
  have spelled := spellProducts_append_tokens formed [] rfl
  simpa [Token.spellProducts] using spelled

end Expression

end Calculator
