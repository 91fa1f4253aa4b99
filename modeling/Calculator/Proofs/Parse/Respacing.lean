import Calculator.Proofs.Token.Respacing
import Calculator.Proofs.Tree.Places

/-!
# Texts with other white space

The tokens of a text may be laid out with other gaps between them. The text that they make
is cut into the same tokens, and it is read and computed like the one they came from, up to
places (`parse_respaced`).
-/

namespace Calculator

namespace Token

theorem classify_placeless (config : Config) (token : Token) :
    token.placeless.classify config = (token.classify config).placeless := by
  unfold classify
  rw [show token.placeless.kind = token.kind from rfl,
    show token.placeless.lexeme = token.lexeme from rfl]
  split
  · split <;> rfl
  · rfl

variable {tokens : List Token} {gaps : List (List Char)} {last : List Char}

theorem placeless_laidOut (spaced : Gaps gaps tokens last) (position : Nat) :
    (laidOut position gaps tokens).map placeless = tokens.map placeless := by
  induction tokens generalizing gaps position with
  | nil => cases gaps <;> rfl
  | cons token tokens ih =>
      rcases gaps with _ | ⟨gap, gaps⟩
      · cases spaced.length_eq
      · rw [laidOut, List.map_cons, List.map_cons, ih spaced.tail]
        rfl

theorem ofText_layOut (alone : ∀ token ∈ tokens, token.StandsAlone)
    (spaced : Gaps gaps tokens last) :
    ofText (String.ofList (layOut gaps tokens last)) = .ok (laidOut 0 gaps tokens) := by
  rw [ofText_eq_ok_iff, String.toList_ofList, scan_layOut alone spaced]

theorem standsAlone_of_ofText {source : String} (read : ofText source = .ok tokens) :
    ∀ token ∈ tokens, token.StandsAlone := by
  have scanned := standsAlone_of_scan 0 source.toList
  rwa [ofText_eq_ok_iff.mp read] at scanned

end Token

open Parsed

variable {source text : String} {tokens placed : List Token}

/-- A text with the same tokens at other places gives the same tree, or the same problem. -/
theorem parse_of_placeless_eq (read : Token.ofText source = .ok tokens)
    (again : Token.ofText text = .ok placed)
    (same : placed.map Token.placeless = tokens.map Token.placeless) (config : Config) :
    Parsed.placeless (Option.map Tree.placeless) (parse config text) =
        Parsed.placeless (Option.map Tree.placeless) (parse config source) ∧
      Parsed.placeless (List.map Tree.placeless) (parsePostfix config text) =
        Parsed.placeless (List.map Tree.placeless) (parsePostfix config source) := by
  have classified : (placed.map (Token.classify config)).map Token.placeless =
      (tokens.map (Token.classify config)).map Token.placeless := by
    have classifies := congrArg (List.map (Token.classify config)) same
    simpa [Function.comp_def, Token.classify_placeless] using classifies
  have reads : ∀ {source : String} {tokens : List Token}, Token.ofText source = .ok tokens →
      parse config source = Tree.ofTokens config (tokens.map (Token.classify config)) ∧
        parsePostfix config source = Tree.ofPostfix (tokens.map (Token.classify config)) := by
    intro source tokens read
    rw [parse, parsePostfix, Token.ofSource, read]
    exact ⟨rfl, rfl⟩
  rw [(reads read).1, (reads read).2, (reads again).1, (reads again).2,
    ← Tree.ofTokens_placeless, ← Tree.ofTokens_placeless, ← Tree.ofPostfix_placeless,
    ← Tree.ofPostfix_placeless, classified]
  exact ⟨rfl, rfl⟩

/-- Computing what was read comes to the same if places are left out before or after. -/
theorem placeless_evaluateAll {α β : Type} (erase : α → β) (trees : α → List Tree)
    (bare : β → List Tree) (same : ∀ value, bare (erase value) = (trees value).map Tree.placeless)
    {V ε : Type} [ValueLike V] [FaultLike ε] (evaluator : Evaluator V ε)
    (result : Except ParseProblem α) :
    Parsed.placeless (fun value => (evaluator.evaluateAll (trees value)).mapError
        Failure.placeless) result =
      (Parsed.placeless erase result).map fun value => evaluator.evaluateAll (bare value) := by
  cases result with
  | error problem => rfl
  | ok value =>
      have computed := evaluator.evaluateAll_placeless (trees value)
      rw [← same] at computed
      exact congrArg Except.ok computed.symm

/-- **Stability under re-spacing.** Take the tokens of any text and lay their lexemes out
with other white space between them, some between any two. The new text has the same tokens,
each at the place where its lexeme was put. With any settings it is read to the same tree, or
the same trees in postfix order, or refused for the same reason, up to places; and every
evaluator computes the same values, or fails in the same way. -/
theorem parse_respaced (read : Token.ofText source = .ok tokens) {gaps : List (List Char)}
    {last : List Char} (spaced : Token.Gaps gaps tokens last) :
    let text := String.ofList (Token.layOut gaps tokens last)
    (∃ placed, Token.ofText text = .ok placed ∧ placed.length = tokens.length ∧
      ∀ (index : Nat) (gap : List Char) (token : Token),
        gaps[index]? = some gap → tokens[index]? = some token →
        placed[index]? = some { token with position :=
          (Token.layOut (gaps.take index) (tokens.take index) gap).length }) ∧
    ∀ config,
      Parsed.placeless (Option.map Tree.placeless) (parse config text) =
        Parsed.placeless (Option.map Tree.placeless) (parse config source) ∧
      Parsed.placeless (List.map Tree.placeless) (parsePostfix config text) =
        Parsed.placeless (List.map Tree.placeless) (parsePostfix config source) ∧
      ∀ (V ε : Type) [ValueLike V] [FaultLike ε] (evaluator : Evaluator V ε),
        Parsed.placeless (fun tree => (evaluator.evaluateAll tree.toList).mapError
            Failure.placeless) (parse config text) =
          Parsed.placeless (fun tree => (evaluator.evaluateAll tree.toList).mapError
            Failure.placeless) (parse config source) ∧
        Parsed.placeless (fun trees => (evaluator.evaluateAll trees).mapError
            Failure.placeless) (parsePostfix config text) =
          Parsed.placeless (fun trees => (evaluator.evaluateAll trees).mapError
            Failure.placeless) (parsePostfix config source) := by
  intro text
  have again := Token.ofText_layOut (Token.standsAlone_of_ofText read) spaced
  refine ⟨⟨_, again, Token.length_laidOut spaced 0, fun index gap token before known => ?_⟩,
    fun config => ?_⟩
  · rw [Token.getElem?_laidOut 0 before known, Nat.zero_add]
  · obtain ⟨tree, trees⟩ :=
      parse_of_placeless_eq read again (Token.placeless_laidOut spaced 0) config
    refine ⟨tree, trees, fun V ε _ _ evaluator => ⟨?_, ?_⟩⟩
    · have computed := placeless_evaluateAll (Option.map Tree.placeless) Option.toList
        Option.toList (by rintro (_ | tree) <;> rfl) evaluator
      rw [computed, computed, tree]
    · have computed := placeless_evaluateAll (List.map Tree.placeless) id id
        (fun _ => rfl) evaluator
      exact (computed _).trans ((congrArg _ trees).trans (computed _).symm)

/-- The lexemes that touch in `0b12!^3e` may stand apart. -/
theorem parse_respaced_touching_lexemes :
    let source := "0b12!^3e"
    let text := "0b1 2\t! ^\n3\u3000e "
    let name : Token := ⟨.identifier, "e", none, 7, none, false⟩
    let tokens : List Token :=
      [⟨.number, "0b1", some (.number (.int 1)), 0, none, false⟩,
        ⟨.number, "2", some (.number (.int 2)), 3, none, false⟩,
        ⟨.operator, "!", none, 4, none, false⟩, ⟨.operator, "^", none, 5, none, false⟩,
        ⟨.number, "3", some (.number (.int 3)), 6, none, false⟩, name]
    Token.ofText source = .ok tokens ∧
      (∃ placed, Token.ofText text = .ok placed ∧ placed.length = 6 ∧
        placed[5]? = some { name with position := 12 }) ∧
      ∀ config, Parsed.placeless (Option.map Tree.placeless) (parse config text) =
        Parsed.placeless (Option.map Tree.placeless) (parse config source) := by
  intro source text name tokens
  have read : Token.ofText source = .ok tokens := by cbv
  have spaced : Token.Gaps [[], [' '], ['\t'], [' '], ['\n'], ['\u3000']] tokens [' '] := by
    refine ⟨rfl, ?_, by decide⟩
    simp only [Text.Blank, List.forall_mem_cons, List.not_mem_nil, false_imp_iff, implies_true,
      and_true]
    decide
  have layout : String.ofList (Token.layOut [[], [' '], ['\t'], [' '], ['\n'], ['\u3000']] tokens
      [' ']) = text := by cbv
  obtain ⟨⟨placed, again, length, places⟩, same⟩ := parse_respaced read spaced
  rw [layout] at again same
  have found := places 5 ['\u3000'] name rfl rfl
  exact ⟨read, ⟨placed, again, length, found⟩, fun config => (same config).1⟩

end Calculator
