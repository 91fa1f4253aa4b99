import Calculator.Proofs.Parse.Enclosure
import Calculator.Proofs.Tree.Bracketing

/-!
# The expression that the bracketing evaluator writes

`Tree.writing` is what `Tree.infixText` spells. Its text is cut into its tokens unless a `!`
runs into a `==` (`Plain.reads`, `Plain.exists_notEqual`), and it conforms to the precedences
unless an operator without brackets of its own is weaker than the operator that it is an
operand of (`Plain.conforming_writing_iff`).
-/

namespace Calculator

namespace Token

/-- From a start on a text is cut into tokens, and further from a stop with the rest. -/
def Reads (start : Nat) (text : List Char) (tokens : List Token) (stop : Nat)
    (rest : List Char) : Prop :=
  scan start text = (tokens ++ (scan stop rest).1, (scan stop rest).2)

variable {start middle stop : Nat} {text between rest : List Char} {front back : List Token}

theorem Reads.trans (first : Reads start text front middle between)
    (second : Reads middle between back stop rest) :
    Reads start text (front ++ back) stop rest := by
  rw [Reads, first, second, List.append_assoc]

theorem Reads.cons {token : Token} (first : Reads start text [token] middle between)
    (second : Reads middle between back stop rest) :
    Reads start text (token :: back) stop rest := first.trans second

theorem Reads.subset (reads : Reads start text front stop rest) :
    front ⊆ (scan start text).1 := by
  rw [reads]
  exact List.subset_append_left _ _

theorem Reads.subset_rest (reads : Reads start text front stop rest) :
    (scan stop rest).1 ⊆ (scan start text).1 := by
  rw [reads]
  exact List.subset_append_right _ _

theorem reads_bracket {pair : Char × Char} (member : pair ∈ bracketPairs) (start : Nat)
    (rest : List Char) :
    Reads start (pair.1 :: rest) [bracket start pair.1] (start + 1) rest ∧
      Reads start (pair.2 :: rest) [bracket start pair.2] (start + 1) rest := by
  have known : ∀ pair ∈ bracketPairs, (isBracket pair.1 = true ∧ Text.isBlank pair.1 = false) ∧
      isBracket pair.2 = true ∧ Text.isBlank pair.2 = false := by decide
  obtain ⟨opens, closes⟩ := known pair member
  exact ⟨scan_bracket opens.1 opens.2 start rest, scan_bracket closes.1 closes.2 start rest⟩

theorem reads_opener (start : Nat) (rest : List Char) :
    Reads start ('(' :: rest) [bracket start '('] (start + 1) rest :=
  (@reads_bracket ('(', ')') (by decide) start rest).1

theorem reads_closer (start : Nat) (rest : List Char) :
    Reads start (')' :: rest) [bracket start ')'] (start + 1) rest :=
  (@reads_bracket ('(', ')') (by decide) start rest).2

/-- An operator that is the longest lexeme is cut off. -/
theorem reads_symbol {name : String} (spelled : name.toList ∈ operatorSpellings)
    (longest : Lexeme.Longest ⟨.operator, name.toList, none⟩ (name.toList ++ rest)) (start : Nat) :
    Reads start (name.toList ++ rest) [symbol start name] (start + name.toList.length) rest := by
  have visible : ∀ c ∈ name.toList.head?, Text.isBlank c = false := by
    intro c head
    have shown := (Lexeme.stands_operator spelled).visible
    simpa [Option.mem_def.mp head] using shown
  have found := scan_of_longest longest visible start
  rw [ofLexeme, String.ofList_toList] at found
  exact found

theorem reads_sign (start : Nat) (rest : List Char) :
    Reads start ('-' :: '(' :: rest) [symbol start "-"] (start + 1) ('(' :: rest) := by
  have spelled : "-".toList ∈ operatorSpellings := by decide
  refine reads_symbol spelled (Lexeme.longest_of_startsOperand spelled (by decide) ?_) start
  rintro c ⟨⟩
  exact .inl rfl

theorem reads_factorial (apart : ∀ c ∈ rest.head?, c ≠ '=') (start : Nat) :
    Reads start ('!' :: rest) [symbol start "!"] (start + 1) rest :=
  @reads_symbol _ "!" (by decide) (Lexeme.longest_factorial apart) start

theorem reads_notEqual (start : Nat) (rest : List Char) :
    Reads start ('!' :: '=' :: rest) [symbol start "!="] (start + 2) rest :=
  @reads_symbol _ "!=" (by decide) (Lexeme.longest_notEqual rest) start

theorem reads_literal {token : Token} (role : token.IsLiteral) (finite : ¬ token.Overflows)
    (follows : ∀ c ∈ rest.head?, c ∈ followers) (start : Nat) :
    Reads start (token.respelled.chars ++ rest) [ofLexeme start token.respelled]
      (start + token.respelled.chars.length) rest := by
  refine scan_of_longest (Lexeme.longest_of_literal role finite follows) ?_ start
  obtain ⟨first, others, same, digit⟩ := Lexeme.exists_digit_of_literal role finite
  rw [same]
  rintro c ⟨⟩
  exact Lexeme.isBlank_eq_false (.inr digit)

end Token

namespace Tree

open Token Expression

/-- The expression that the bracketing evaluator writes, from a position on. -/
def writing (position : Nat) : Tree → Expression
  | leaf token => .leaf (ofLexeme position token.respelled)
  | unary operator operand =>
    if operator.lexeme = "negate" then
      .prefixed (symbol position "-") (.bracketed (bracket (position + 1) '(')
        (operand.writing (position + 2))
        (bracket (position + 2 + operand.infixText.length) ')'))
    else
      .suffixed (operand.writing position)
        (symbol (position + operand.infixText.length) operator.lexeme)
  | binary operator left right =>
    let middle := position + 1 + left.infixText.length
    let behind := middle + operator.lexeme.toList.length
    .bracketed (bracket position '(')
      (.infixed (left.writing (position + 1)) (symbol middle operator.lexeme)
        (right.writing behind))
      (bracket (behind + right.infixText.length) ')')

variable {operator : Token} {operand left right tree : Tree}

theorem writing_negation (name : operator.lexeme = "negate") (position : Nat) :
    (unary operator operand).writing position =
      .prefixed (symbol position "-") (.bracketed (bracket (position + 1) '(')
        (operand.writing (position + 2))
        (bracket (position + 2 + operand.infixText.length) ')')) := by
  rw [writing, if_pos name]

theorem writing_factorial (name : operator.lexeme = "!") (position : Nat) :
    (unary operator operand).writing position = .suffixed (operand.writing position)
      (symbol (position + operand.infixText.length) "!") := by
  rw [writing, name, if_neg (by decide)]

/-- How the operators of arithmetic are spelled. -/
theorem spelled_of_arithmetic {name : String} (known : name ∈ arithmeticOperators) :
    name.toList ∈ operatorSpellings ∧ name.toList ≠ Lexeme.deg ∧
      ∃ first others, name.toList = first :: others ∧ first ∈ followers ∧
        (first = '=' → name = "==") := by
  simp only [arithmeticOperators, List.mem_cons, List.not_mem_nil, or_false] at known
  rcases known with rfl | rfl | rfl | rfl | rfl | rfl | rfl | rfl | rfl | rfl | rfl <;>
    exact ⟨by decide, by decide, _, _, rfl, by decide, by decide⟩

/-- An operator of arithmetic in front of a written tree keeps to itself. -/
theorem reads_between {name : String} (known : name ∈ arithmeticOperators) (plain : right.Plain)
    (start : Nat) (rest : List Char) :
    Reads start (name.toList ++ (right.infixText ++ rest)) [symbol start name]
      (start + name.toList.length) (right.infixText ++ rest) := by
  obtain ⟨spelled, symbols, -⟩ := spelled_of_arithmetic known
  refine reads_symbol spelled (Lexeme.longest_of_startsOperand spelled symbols ?_) start
  obtain ⟨head, tail, front, starts⟩ := plain.startsOperand
  rw [front]
  rintro c ⟨⟩
  exact starts

/-- What stands behind a written tree does not go on with it. -/
def Ends (tree : Tree) (rest : List Char) : Prop :=
  ∀ c ∈ rest.head?, c ∈ followers ∧ (tree.isUnder "!" = true → c ≠ '=')

theorem ends_nil (tree : Tree) : tree.Ends [] := fun _ none => absurd none (Option.not_mem_none _)

theorem ends_closer (tree : Tree) (rest : List Char) : tree.Ends (')' :: rest) := by
  rintro c ⟨⟩
  exact ⟨by decide, fun _ => by decide⟩

theorem ends_factorial (tree : Tree) (rest : List Char) : tree.Ends ('!' :: rest) := by
  rintro c ⟨⟩
  exact ⟨by decide, fun _ => by decide⟩

theorem ends_between {name : String} (known : name ∈ arithmeticOperators)
    (free : ¬ (name = "==" ∧ left.isUnder "!" = true)) (rest : List Char) :
    left.Ends (name.toList ++ rest) := by
  obtain ⟨-, -, first, others, same, follows, equals⟩ := spelled_of_arithmetic known
  rw [same]
  rintro c ⟨⟩
  exact ⟨follows, fun factorial sign => free ⟨equals sign, factorial⟩⟩

/-- What was written is cut into the tokens of its expression, wherever it stands, if nothing
goes on behind it. -/
theorem Plain.reads (plain : tree.Plain) (lexemes : tree.KeepsLexemes) (start : Nat)
    {rest : List Char} (ends : tree.Ends rest) :
    Reads start (tree.infixText ++ rest) (tree.writing start).tokens
      (start + tree.infixText.length) rest := by
  induction plain generalizing start rest with
  | literal role finite => exact reads_literal role finite (fun c head => (ends c head).1) start
  | @negation operator operand name inside ih =>
      have place : start + (unary operator operand).infixText.length =
          start + 2 + operand.infixText.length + 1 := by
        simp only [infixText_negation name, List.length_cons, List.length_append, List.length_nil]
        omega
      have sign := reads_sign start (operand.infixText ++ ')' :: rest)
      have content := ih lexemes (start + 2) (ends_closer operand rest)
      rw [infixText_negation_append name, writing_negation name, place]
      exact sign.cons ((reads_opener (start + 1) _).cons (content.trans (reads_closer _ rest)))
  | @factorial operator operand name inside ih =>
      have place : start + (unary operator operand).infixText.length =
          start + operand.infixText.length + 1 := by
        simp only [infixText_factorial name, List.length_append, List.length_singleton]
        omega
      have content := ih lexemes start (ends_factorial operand rest)
      have apart : ∀ c ∈ rest.head?, c ≠ '=' := fun c head =>
        (ends c head).2 (beq_iff_eq.mpr name)
      rw [infixText_factorial_append name, writing_factorial name, place]
      exact content.trans (reads_factorial apart (start + operand.infixText.length))
  | @between operator left right known first second firstIh secondIh =>
      obtain ⟨free, lexemesFirst, lexemesSecond⟩ := lexemes
      have place : start + (binary operator left right).infixText.length =
          start + 1 + left.infixText.length + operator.lexeme.toList.length +
            right.infixText.length + 1 := by
        simp only [infixText, List.length_cons, List.length_append, List.length_nil]
        omega
      have front := firstIh lexemesFirst (start + 1)
        (ends_between known free (right.infixText ++ ')' :: rest))
      have middle := reads_between known second (start + 1 + left.infixText.length) (')' :: rest)
      have back := secondIh lexemesSecond
        (start + 1 + left.infixText.length + operator.lexeme.toList.length) (ends_closer right rest)
      have inside := front.trans (middle.cons back)
      rw [infixText_binary_append, place]
      exact (reads_opener start _).cons (inside.trans (reads_closer _ rest))

/-- A factorial in front of a `==` is cut in a wrong place. -/
theorem Plain.exists_notEqual_of_isUnder (plain : tree.Plain) (factorial : tree.isUnder "!" = true)
    (lexemes : tree.KeepsLexemes) (start : Nat) (rest : List Char) :
    ∃ token ∈ (scan start (tree.infixText ++ '=' :: rest)).1,
      token.kind = .operator ∧ token.lexeme = "!=" := by
  cases plain with
  | literal | between => cases factorial
  | negation name =>
      rw [isUnder, name] at factorial
      cases factorial
  | @factorial operator operand name inside =>
      rw [infixText_factorial_append name]
      have content := inside.reads lexemes start (ends_factorial operand ('=' :: rest))
      have mark := reads_notEqual (start + operand.infixText.length) rest
      exact ⟨_, content.subset_rest (mark.subset (List.mem_singleton_self _)), rfl, rfl⟩

/-- Where a `!` runs into a `==`, an operator is cut off that no tree of arithmetic has. -/
theorem Plain.exists_notEqual (plain : tree.Plain) (merged : ¬ tree.KeepsLexemes) (start : Nat)
    (rest : List Char) : ∃ token ∈ (scan start (tree.infixText ++ rest)).1,
      token.kind = .operator ∧ token.lexeme = "!=" := by
  induction plain generalizing start rest with
  | literal => exact absurd trivial merged
  | @negation operator operand name inside ih =>
      rw [infixText_negation_append name]
      obtain ⟨token, member, known⟩ := ih merged (start + 2) (')' :: rest)
      have before := (reads_sign start (operand.infixText ++ ')' :: rest)).cons
        (reads_opener (start + 1) _)
      exact ⟨token, before.subset_rest member, known⟩
  | factorial name inside ih =>
      rw [infixText_factorial_append name]
      exact ih merged start ('!' :: rest)
  | @between operator left right known first second firstIh secondIh =>
      rw [infixText_binary_append]
      have opener := reads_opener start (left.infixText ++ (operator.lexeme.toList ++
        (right.infixText ++ ')' :: rest)))
      -- The first place where this happens is in the left operand, behind it, or on the right.
      by_cases inFirst : left.KeepsLexemes
      · by_cases clash : operator.lexeme = "==" ∧ left.isUnder "!" = true
        · obtain ⟨token, member, found⟩ := first.exists_notEqual_of_isUnder clash.2 inFirst
            (start + 1) ('=' :: (right.infixText ++ ')' :: rest))
          rw [clash.1] at opener ⊢
          exact ⟨token, opener.subset_rest member, found⟩
        · have inSecond : ¬ right.KeepsLexemes := fun kept => merged ⟨clash, inFirst, kept⟩
          obtain ⟨token, member, found⟩ := secondIh inSecond
            (start + 1 + left.infixText.length + operator.lexeme.toList.length) (')' :: rest)
          have front := first.reads inFirst (start + 1)
            (ends_between known clash (right.infixText ++ ')' :: rest))
          have middle :=
            reads_between known second (start + 1 + left.infixText.length) (')' :: rest)
          exact ⟨token, (opener.cons (front.trans middle)).subset_rest member, found⟩
      · obtain ⟨token, member, found⟩ := firstIh inFirst (start + 1) _
        exact ⟨token, opener.subset_rest member, found⟩

/-- A written tree is well formed with any settings. -/
theorem Plain.wellFormed_writing (plain : tree.Plain) (config : Config) (position : Nat) :
    (tree.writing position).WellFormed config := by
  have paired : ('(', ')') ∈ bracketPairs := by decide
  induction plain generalizing position with
  | @literal token role finite =>
      obtain ⟨whole, fraction, exponent, -, same, -⟩ := role.exists_respelled finite
      refine ⟨?_, trivial⟩
      rw [writing, same]
      rfl
  | negation name inside ih =>
      rw [writing_negation name]
      exact ⟨⟨.inr ⟨rfl, rfl, rfl⟩, (ih _).fitted⟩,
        isOpener_bracket paired _, closes_bracket paired _ _, (ih _).bracketed⟩
  | factorial name inside ih =>
      rw [writing_factorial name]
      have suffix : Operator.isSuffixed "!" = true := by decide
      exact ⟨⟨⟨rfl, rfl, suffix⟩, (ih _).fitted⟩, (ih _).bracketed⟩
  | between known first second firstIh secondIh =>
      have infix' : ∀ name ∈ arithmeticOperators, Operator.isInfixed name = true := by decide
      exact ⟨⟨⟨rfl, rfl, infix' _ known⟩, (firstIh _).fitted, (secondIh _).fitted⟩,
        isOpener_bracket paired _, closes_bracket paired _ _,
        (firstIh _).bracketed, (secondIh _).bracketed⟩

theorem Plain.outline_writing (plain : tree.Plain) (position : Nat) :
    (tree.writing position).tree.outline = tree.outline := by
  induction plain generalizing position with
  | @literal token role finite =>
      obtain ⟨whole, fraction, exponent, -, same, value⟩ := role.exists_respelled finite
      simp [writing, Expression.tree, outline, ofLexeme, same, value]
  | negation name inside ih =>
      rw [writing_negation name, outline, ← ih (position + 2), name]
      rfl
  | factorial name inside ih =>
      rw [writing_factorial name, outline, ← ih position, name]
      rfl
  | between known first second firstIh secondIh =>
      simp only [writing, Expression.tree, outline, firstIh, secondIh]
      rfl

theorem Plain.depth_writing_le (plain : tree.Plain) (position : Nat) :
    (tree.writing position).depth ≤ 2 * tree.postorder.length := by
  induction plain generalizing position with
  | literal => exact Nat.zero_le _
  | negation name inside ih =>
      have below := ih (position + 2)
      simp only [writing_negation name, depth, postorder, List.length_append, List.length_singleton]
      omega
  | factorial name inside ih =>
      have below := ih position
      simp only [writing_factorial name, depth, postorder, List.length_append,
        List.length_singleton]
      omega
  | @between operator left right known first second firstIh secondIh =>
      have inFirst := firstIh (position + 1)
      have inSecond := secondIh
        (position + 1 + left.infixText.length + operator.lexeme.toList.length)
      simp only [writing, depth, postorder, List.length_append, List.length_singleton]
      omega

/-- Between operands only a power binds tighter than a negation. -/
theorem bindsTighter_negation {name : String} (known : name ∈ arithmeticOperators)
    (position place : Nat) :
    Operator.bindsTighter (some (symbol position name).infixed)
      (some (symbol place "-").leading) = decide (name = "^") := by
  simp only [arithmeticOperators, List.mem_cons, List.not_mem_nil, or_false] at known
  rcases known with rfl | rfl | rfl | rfl | rfl | rfl | rfl | rfl | rfl | rfl | rfl <;> rfl

/-- A factorial binds tighter than all operators between operands but the power. -/
theorem factorial_bindsTighter {name : String} (known : name ∈ arithmeticOperators)
    (position place : Nat) :
    Operator.bindsTighter (some (symbol place "!").suffixed)
      (some (symbol position name).infixed) = decide (name ≠ "^") := by
  simp only [arithmeticOperators, List.mem_cons, List.not_mem_nil, or_false] at known
  rcases known with rfl | rfl | rfl | rfl | rfl | rfl | rfl | rfl | rfl | rfl | rfl <;> rfl

/-- Only a negation is open to the right. -/
theorem Plain.rightEdge_writing (plain : tree.Plain) (position : Nat) :
    (tree.writing position).rightEdge =
      if tree.isUnder "negate" then [(symbol position "-").leading] else [] := by
  cases plain with
  | literal | between => rfl
  | negation name =>
      rw [writing_negation name, isUnder, name]
      rfl
  | factorial name =>
      rw [writing_factorial name, isUnder, name]
      rfl

/-- Only a factorial is open to the left. -/
theorem Plain.leftEdge_writing (plain : tree.Plain) (position : Nat) :
    ((tree.writing position).leftEdge = [] ↔ tree.isUnder "!" = false) ∧
      ∀ token ∈ (tree.writing position).leftEdge, ∃ place, token = (symbol place "!").suffixed := by
  induction plain generalizing position with
  | literal | between => exact ⟨⟨fun _ => rfl, fun _ => rfl⟩, List.forall_mem_nil _⟩
  | negation name =>
      rw [writing_negation name, isUnder, name]
      exact ⟨⟨fun _ => rfl, fun _ => rfl⟩, List.forall_mem_nil _⟩
  | factorial name inside ih =>
      rw [writing_factorial name, isUnder, name, leftEdge]
      refine ⟨by simp, fun token member => ?_⟩
      rcases List.mem_cons.mp member with rfl | later
      · exact ⟨_, rfl⟩
      · exact (ih position).2 token later

/-- Of the operators behind it a negation loses its operand to a power. -/
theorem Plain.holdsOff_writing_iff (plain : left.Plain) {name : String}
    (known : name ∈ arithmeticOperators) (position place : Nat) :
    HoldsOff (symbol place name).infixed (left.writing position).rightEdge ↔
      ¬ (name = "^" ∧ left.isUnder "negate" = true) := by
  rw [plain.rightEdge_writing]
  cases left.isUnder "negate" with
  | false => simp [HoldsOff]
  | true => simp [HoldsOff, bindsTighter_negation known]

/-- Of the operators in front of it a factorial loses its operand to a power. -/
theorem Plain.yieldsTo_writing_iff (plain : right.Plain) {name : String}
    (known : name ∈ arithmeticOperators) (position place : Nat) :
    YieldsTo (symbol place name).infixed (right.writing position).leftEdge ↔
      ¬ (name = "^" ∧ right.isUnder "!" = true) := by
  obtain ⟨closed, marks⟩ := plain.leftEdge_writing position
  constructor
  · rintro yields ⟨power, factorial⟩
    obtain ⟨token, member⟩ := List.exists_mem_of_ne_nil _ fun none => by
      rw [closed.mp none] at factorial
      cases factorial
    obtain ⟨there, rfl⟩ := marks token member
    have tighter := yields _ member
    rw [factorial_bindsTighter known, power] at tighter
    cases tighter
  · intro weaker token member
    obtain ⟨there, rfl⟩ := marks token member
    rw [factorial_bindsTighter known, decide_eq_true_iff]
    intro power
    have factorial : right.isUnder "!" = true := by
      by_contra open'
      rw [closed.mpr (Bool.eq_false_iff.mpr open')] at member
      cases member
    exact weaker ⟨power, factorial⟩

/-- A written tree conforms to the precedences exactly if it keeps its scopes. -/
theorem Plain.conforming_writing_iff (plain : tree.Plain) (position : Nat) :
    (tree.writing position).Conforming ↔ tree.KeepsScopes := by
  induction plain generalizing position with
  | literal => exact Iff.rfl
  | negation name inside ih =>
      have other : ¬ ("negate" = "!") := by decide
      rw [writing_negation name, KeepsScopes, name, Conforming, Conforming, ih]
      simp [leftEdge, YieldsTo, other]
  | factorial name inside ih =>
      rw [writing_factorial name, KeepsScopes, name, Conforming, ih, inside.rightEdge_writing]
      refine and_congr_left fun _ => ?_
      cases under : isUnder "negate" _ with
      | false => simp [HoldsOff]
      | true =>
          have tighter : ∀ place, Operator.bindsTighter (some (symbol place "!").suffixed)
              (some (symbol position "-").leading) = true := fun _ => rfl
          simp [HoldsOff, tighter]
  | between known first second firstIh secondIh =>
      rw [writing, KeepsScopes, Conforming, Conforming, firstIh, secondIh,
        first.holdsOff_writing_iff known, second.yieldsTo_writing_iff known]
      tauto

end Tree

end Calculator
