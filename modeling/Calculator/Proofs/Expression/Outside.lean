import Calculator.Proofs.Group.Product
import Calculator.Proofs.Expression.Basic
import Calculator.Proofs.Token.Joining

/-!
# Outside of brackets

What stands outside of all brackets can be told from a text (`Text.outside`), from its
tokens (`Token.outside`) and from an expression (`Expression.uncovered`), and it is the
same: so a text without a comma outside of brackets gives an expression whose edges hold no
comma (`Expression.lexeme_ne_comma_of_mem_leftEdge`).
-/

namespace Calculator

/-- Whether a bracket opens a group. -/
def opensBracket (c : Char) : Bool := bracketPairs.any fun pair => c == pair.1

/-- The characters of a text outside of all brackets, of which some may be open where it
starts. -/
def Text.outside : Nat → List Char → List Char
  | _, [] => []
  | depth, c :: rest =>
    if isBracket c then outside (if opensBracket c then depth + 1 else depth - 1) rest
    else if depth = 0 then c :: outside depth rest
    else outside depth rest

/-- The tokens outside of all brackets, of which some may be open where they start. -/
def Token.outside : Nat → List Token → List Token
  | _, [] => []
  | depth, token :: rest =>
    if token.kind = .bracket then outside (if token.opensGroup then depth + 1 else depth - 1) rest
    else if depth = 0 then token :: outside depth rest
    else outside depth rest

namespace Text

theorem outside_append {front : List Char} (free : ∀ c ∈ front, isBracket c = false)
    (depth : Nat) (rest : List Char) :
    outside depth (front ++ rest) = (if depth = 0 then front else []) ++ outside depth rest := by
  induction front with
  | nil => split <;> rfl
  | cons c front ih =>
      have here := free c List.mem_cons_self
      rw [List.cons_append, outside, here, if_neg Bool.false_ne_true,
        ih fun d member => free d (List.mem_cons_of_mem _ member)]
      split <;> rfl

theorem isBracket_of_blank {c : Char} (blank : isBlank c = true) : isBracket c = false := by
  have visible : ∀ pair ∈ bracketPairs, isBlank pair.1 = false ∧ isBlank pair.2 = false := by decide
  cases bracket : isBracket c with
  | false => rfl
  | true =>
      obtain ⟨pair, member, same⟩ := List.any_eq_true.mp bracket
      obtain ⟨first, second⟩ := visible pair member
      simp only [Bool.or_eq_true, beq_iff_eq] at same
      rcases same with rfl | rfl
      · rw [blank] at first
        cases first
      · rw [blank] at second
        cases second

end Text

theorem Lexeme.Formed.isBracket_eq_false {lexeme : Lexeme} (formed : lexeme.Formed)
    (other : lexeme.kind ≠ .bracket) : ∀ c ∈ lexeme.chars, isBracket c = false := by
  intro c member
  cases formed with
  | operator spelled =>
      have free : operatorSpellings.all (fun spelling => spelling.all fun c => !isBracket c) =
          true := by decide
      simpa using List.all_eq_true.mp (List.all_eq_true.mp free _ spelled) c member
  | bracket => exact absurd rfl other
  | number grammatical =>
      exact Bool.eq_false_iff.mpr fun bracket =>
        Numeral.not_mem_separators grammatical c member (mem_separators_of_isBracket bracket)
  | identifier letter words =>
      rcases List.mem_cons.mp member with rfl | inside
      · exact Lexeme.isBracket_eq_false (.inl letter)
      · exact Bool.eq_false_iff.mpr fun bracket =>
          not_mem_separators_of_isWordChar (words c inside) (mem_separators_of_isBracket bracket)

namespace Token

variable {config : Config}

theorem opensGroup_eq_opensBracket {c : Char} (paired : isBracket c = true) {token : Token}
    (spelled : token.lexeme = String.ofList [c]) : token.opensGroup = opensBracket c := by
  simp only [isBracket, bracketPairs, List.any_cons, List.any_nil, Bool.or_false, Bool.or_eq_true,
    beq_iff_eq] at paired
  rw [opensGroup, spelled]
  rcases paired with (rfl | rfl) | (rfl | rfl) | (rfl | rfl) <;> rfl

theorem classify_lexeme (token : Token) : (token.classify config).lexeme = token.lexeme := by
  unfold classify
  split
  · split <;> rfl
  · rfl

theorem classify_kind_bracket (token : Token) :
    (token.classify config).kind = .bracket ↔ token.kind = .bracket := by
  unfold classify
  split
  · rename_i identifier
    rw [identifier]
    split <;> simp
  · rfl

/-- A comma among the tokens outside of brackets is one in the text. -/
theorem comma_mem_outside {position : Nat} {text : List Char} {tokens : List Token}
    (complete : scan position text = (tokens, none)) (depth : Nat) :
    ∀ token ∈ outside depth (tokens.map (classify config)), token.lexeme = "," →
      ',' ∈ Text.outside depth text := by
  fun_induction scan position text generalizing tokens depth with
  | case1 position text finished =>
      cases complete
      simp [outside]
  | case2 position text error stuck => cases complete
  | case3 position text token stop rest found shorter others error again ih =>
      cases complete
      intro token member comma
      cases next_eq_iff.mp found with
      | @found blanks rest lexeme split blank visible longest =>
          rw [split, Text.outside_append fun c member => Text.isBracket_of_blank (blank c member)]
          refine List.mem_append_right _ ?_
          rw [List.map_cons, outside] at member
          by_cases bracket : lexeme.kind = .bracket
          · cases longest.fronts.1 with
            | @bracket c paired =>
                rw [if_pos ((classify_kind_bracket _).mpr rfl),
                  opensGroup_eq_opensBracket paired (classify_lexeme _)] at member
                rw [List.singleton_append, Text.outside, if_pos paired]
                exact ih again _ token member comma
            | _ => cases bracket
          · rw [if_neg fun wrong => bracket ((classify_kind_bracket _).mp wrong)] at member
            rw [Text.outside_append (longest.fronts.1.isBracket_eq_false bracket)]
            by_cases top : depth = 0
            · rw [if_pos top] at member ⊢
              rcases List.mem_cons.mp member with rfl | later
              · refine List.mem_append_left _ ?_
                have chars : lexeme.chars = [','] := by
                  rw [classify_lexeme] at comma
                  have spelled := congrArg String.toList comma
                  simpa [ofLexeme] using spelled
                simp [chars]
              · exact List.mem_append_right _ (ih again depth token later comma)
            · rw [if_neg top] at member
              exact List.mem_append_right _ (ih again depth token member comma)

/-- Spelling products out puts no other token outside of brackets. -/
theorem mem_outside_of_spellProducts (tokens : List Token) (depth : Nat) :
    ∀ token ∈ outside depth (spellProducts tokens),
      token ∈ outside depth tokens ∨ token = impliedProduct := by
  have product : ∀ (depth : Nat) (tokens : List Token), ∀ token ∈ outside depth
      (impliedProduct :: tokens), token = impliedProduct ∨ token ∈ outside depth tokens := by
    intro depth tokens token member
    rw [outside, if_neg (by decide)] at member
    split at member
    · exact List.mem_cons.mp member
    · exact .inr member
  induction tokens generalizing depth with
  | nil => exact fun token member => .inl member
  | cons first rest ih =>
      obtain ⟨behind, same, later⟩ : ∃ behind, spellProducts (first :: rest) = first :: behind ∧
          ∀ depth, ∀ token ∈ outside depth behind,
            token ∈ outside depth rest ∨ token = impliedProduct := by
        rw [spellProducts]
        split
        · exact ⟨_, rfl, fun depth token member =>
            (product depth _ token member).elim .inr (ih depth token)⟩
        · exact ⟨_, rfl, ih⟩
      intro token member
      rw [same, outside] at member
      rw [outside]
      by_cases bracket : first.kind = .bracket
      · rw [if_pos bracket] at member ⊢
        exact later _ token member
      · rw [if_neg bracket] at member ⊢
        by_cases top : depth = 0
        · rw [if_pos top] at member ⊢
          rcases List.mem_cons.mp member with rfl | inside
          · exact .inl List.mem_cons_self
          · exact (later depth token inside).imp_left (List.mem_cons_of_mem _)
        · rw [if_neg top] at member ⊢
          exact later depth token member

theorem outside_cons {token : Token} (plain : token.kind ≠ .bracket) (depth : Nat)
    (rest : List Token) :
    outside depth (token :: rest) = (if depth = 0 then [token] else []) ++ outside depth rest := by
  rw [outside, if_neg plain]
  split <;> rfl

end Token

namespace Expression

variable {config : Config} {e : Expression}

/-- The tokens of an expression outside of its brackets. -/
def uncovered : Expression → List Token
  | leaf token => [token]
  | bracketed _ _ _ => []
  | prefixed operator operand => operator :: operand.uncovered
  | infixed left operator right => left.uncovered ++ operator :: right.uncovered
  | suffixed operand operator => operand.uncovered ++ [operator]

theorem outside_tokens (formed : e.WellFormed config) (depth : Nat) (rest : List Token) :
    Token.outside depth (e.tokens ++ rest) =
      (if depth = 0 then e.uncovered else []) ++ Token.outside depth rest := by
  obtain ⟨fitted, brackets⟩ := formed
  induction e generalizing depth rest with
  | leaf token =>
      have plain : token.kind ≠ .bracket := by
        rw [show token.kind = .number from fitted]
        decide
      exact Token.outside_cons plain depth rest
  | bracketed opener inner closer ih =>
      obtain ⟨⟨opening, opens⟩, ⟨⟨closing, closes⟩, -⟩, inside⟩ := brackets
      have content := ih (depth + 1) (closer :: rest) fitted inside
      rw [if_neg (Nat.succ_ne_zero depth), List.nil_append] at content
      rw [tokens, List.cons_append, List.append_assoc, List.cons_append, List.nil_append,
        Token.outside, if_pos opening, opens, if_pos rfl, content, Token.outside, if_pos closing,
        closes, if_neg Bool.false_ne_true, Nat.add_sub_cancel]
      split <;> rfl
  | prefixed operator operand ih =>
      have plain : operator.kind ≠ .bracket := by
        rcases fitted.1 with role | role <;> rw [role.1] <;> decide
      rw [tokens, List.cons_append, Token.outside_cons plain, ih depth rest fitted.2 brackets]
      split <;> rfl
  | infixed left operator right leftIh rightIh =>
      have plain : operator.kind ≠ .bracket := by
        rw [fitted.1.1]
        decide
      rw [tokens, List.append_assoc, List.cons_append, leftIh depth _ fitted.2.1 brackets.1,
        Token.outside_cons plain, rightIh depth rest fitted.2.2 brackets.2, uncovered]
      split <;> simp
  | suffixed operand operator ih =>
      have plain : operator.kind ≠ .bracket := by
        rw [fitted.1.1]
        decide
      rw [tokens, List.append_assoc, ih depth _ fitted.2 brackets, List.singleton_append,
        Token.outside_cons plain, uncovered]
      split <;> simp

/-- The operators at the left edge stand outside of the brackets. -/
theorem exists_uncovered_of_mem_leftEdge :
    ∀ token ∈ e.leftEdge, ∃ operator ∈ e.uncovered, operator.lexeme = token.lexeme := by
  induction e with
  | infixed left operator right ih _ =>
      intro token member
      rcases List.mem_cons.mp member with rfl | inside
      · exact ⟨operator, by simp [uncovered], rfl⟩
      · obtain ⟨other, found, same⟩ := ih token inside
        exact ⟨other, List.mem_append_left _ found, same⟩
  | suffixed operand operator ih =>
      intro token member
      rcases List.mem_cons.mp member with rfl | inside
      · exact ⟨operator, by simp [uncovered], rfl⟩
      · obtain ⟨other, found, same⟩ := ih token inside
        exact ⟨other, List.mem_append_left _ found, same⟩
  | leaf | bracketed | prefixed => exact List.forall_mem_nil _

/-- An expression that is read from a text without a comma outside of brackets has none at
its left edge. -/
theorem lexeme_ne_comma_of_mem_leftEdge {source : String} {tokens : List Token}
    (scanned : Token.ofSource config source = .ok tokens) (formed : e.WellFormed config)
    (spelled : e.tokens = Token.spellProducts tokens)
    (free : ',' ∉ Text.outside 0 source.toList) : ∀ token ∈ e.leftEdge, token.lexeme ≠ "," := by
  intro token member comma
  obtain ⟨operator, uncovers, same⟩ := exists_uncovered_of_mem_leftEdge token member
  have all := outside_tokens formed 0 []
  rw [List.append_nil, if_pos rfl, Token.outside, List.append_nil, spelled] at all
  rw [← all] at uncovers
  obtain ⟨complete, rfl⟩ := Token.scan_of_ofSource scanned
  rcases Token.mem_outside_of_spellProducts _ 0 operator uncovers with inside | rfl
  · exact free (Token.comma_mem_outside complete 0 operator inside (same.trans comma))
  · rw [← same] at comma
    exact absurd comma (by decide)

end Expression

end Calculator
