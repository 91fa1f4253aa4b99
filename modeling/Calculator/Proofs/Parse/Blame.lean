import Calculator.Explain
import Calculator.Proofs.Expression.Outside
import Calculator.Proofs.Parse.Outcome
import Calculator.Proofs.Tree.Blame

/-!
# Problems have a place in the text

Where a text is refused, the problem names something that stands in the text at the place
of the problem (`ParseProblem.Located`); only where the limit of nesting is passed there may
be no place. Every stage names one of the tokens that were read, never a product that was
put in: nesting brackets and gathering suffixes in this module, building in
`Tree.stemsFrom_of_ofGroup`.
-/

namespace Calculator

open Item

variable {config : Config} {tokens : List Token}

namespace Group

theorem stemsFrom_of_closer {token : Token} (closes : token.IsCloser)
    (here : token.StemsFrom tokens) {opener : Option Token} {depth : Nat} {part : List Token}
    {problem : ParseProblem} (failed : nest config opener depth (token :: part) = .error problem) :
    problem.StemsFrom tokens := by
  cases opener with
  | none =>
      rw [nest_stray closes] at failed
      cases failed
      exact here
  | some opener =>
      by_cases matching : Token.Closes config opener token
      · rw [nest_closer matching] at failed
        cases failed
      · rw [nest_mismatched closes matching] at failed
        cases failed
        exact here

/-- Nesting brackets names a bracket among the tokens. -/
theorem stemsFrom_of_nest {opener : Option Token} (known : ∀ bracket ∈ opener, bracket ∈ tokens)
    {depth : Nat} {part : List Token} (inside : ∀ token ∈ part, token ∈ tokens)
    {problem : ParseProblem} (failed : nest config opener depth part = .error problem) :
    problem.StemsFrom tokens := by
  induction part using Token.bracket_induction generalizing opener depth with
  | nil =>
      cases opener with
      | none =>
          rw [nest_nil_none] at failed
          cases failed
      | some opener =>
          rw [nest_nil_some] at failed
          cases failed
          exact Token.stemsFrom_of_mem (known opener rfl)
  | plain token part plain ih =>
      rw [nest_single plain] at failed
      exact ih known (List.forall_mem_cons.mp inside).2 (error_of_map failed)
  | opener token part opens ih =>
      obtain ⟨here, within⟩ := List.forall_mem_cons.mp inside
      rw [nest_opener opens] at failed
      split at failed
      · cases failed
        rintro _ ⟨⟩
        exact .inr (Token.stemsFrom_of_mem here)
      rcases error_or_exists_of_bind failed with early | ⟨inner, found, beyond⟩
      · refine ih part (Nat.le_refl _) ?_ within early
        rintro _ ⟨⟩
        exact here
      · have answer : Nested config (some token) part
            (nest config (some token) (depth + 1) part) := nested_nest _ _ _
        rw [found] at answer
        obtain ⟨content, -, closer, -, split⟩ := answer
        refine ih inner.2 (length_nest_le found) known ?_ (error_of_map beyond)
        exact fun other member => within other (by simp [split, member])
  | closer token part closes =>
      exact stemsFrom_of_closer closes (Token.stemsFrom_of_mem (inside token List.mem_cons_self))
        failed

/-- Items that are ready for moving suffixes, with neither end put in. -/
theorem ready_of_ofTokens (roles : ∀ token ∈ tokens, Token.Classified config token)
    (placed : ∀ token ∈ tokens, 0 ≤ token.position) {group : Group}
    (bracketed : ofTokens config tokens = .ok group) :
    HoldsIn (Ready tokens) Touched (insertProductsIn group.items) ∧
      Flanked (insertProductsIn group.items) := by
  have read := (spells_of_ofTokens bracketed).read fun _ member => member
  refine ⟨?_, flanked_insertProductsIn placed read⟩
  have both := (rooted_insertProductsIn placed read).and (raw_of_ofTokens roles bracketed)
  exact both.imp (fun _ => id) fun _ _ => And.left

theorem stemsFrom_of_prepare (roles : ∀ token ∈ tokens, Token.Classified config token)
    (placed : ∀ token ∈ tokens, 0 ≤ token.position) {problem : ParseProblem}
    (failed : prepare config tokens = .error problem) : problem.StemsFrom tokens := by
  rcases error_or_exists_of_bind failed with early | ⟨group, bracketed, failed⟩
  · rw [ofTokens_eq_nest] at early
    exact stemsFrom_of_nest (fun _ absent => absurd absent (Option.not_mem_none _))
      (fun _ member => member) (error_of_map early)
  · have known : HoldsIn (fun item => ∀ token, item = .single token → token.Known tokens)
        (fun _ _ => True) (insertProductsIn group.items) := by
      refine (ready_of_ofTokens roles placed bracketed).1.imp ?_ fun _ _ _ => trivial
      rintro _ ⟨rooted, -⟩ token rfl
      exact Rooted.known rooted
    obtain ⟨token, rfl, stems⟩ := exists_tooDeep_of_gather _ 0 problem known (error_of_map failed)
    exact stems

end Group

/-- A problem with tokens names one of them. -/
theorem Tree.stemsFrom_of_ofTokens (roles : ∀ token ∈ tokens, Token.Classified config token)
    (placed : ∀ token ∈ tokens, 0 ≤ token.position) {problem : ParseProblem}
    (failed : Tree.ofTokens config tokens = .error problem) : problem.StemsFrom tokens := by
  rcases error_or_exists_of_bind failed with early | ⟨group, prepared, failed⟩
  · exact Group.stemsFrom_of_prepare roles placed early
  · obtain ⟨nested, frames, bracketed, gathered, same⟩ := Group.exists_gather_of_prepare prepared
    obtain ⟨ready, flanked⟩ := Group.ready_of_ofTokens roles placed bracketed
    have settled := grounded_of_gather placed ready flanked gathered
    rw [← same] at settled
    exact Tree.stemsFrom_of_ofGroup (Group.spacedIn_of_prepare roles prepared) settled.1 settled.2
      failed

/-- A text stands inside of the source at a position. -/
def StandsAt (source text : String) (position : Int) : Prop :=
  ∃ start : Nat, position = start ∧ start < source.length ∧
    text.toList <+: source.toList.drop start

namespace Token

theorem nonempty_of_tiled {position : Nat} {text : List Char} (tiled : Tiled position text tokens) :
    ∀ token ∈ tokens, token.lexeme.toList ≠ [] := by
  induction tiled with
  | last => exact List.forall_mem_nil _
  | token _ _ nonempty _ ih => exact List.forall_mem_cons.mpr ⟨nonempty, ih⟩

/-- Every token that is read stands in the source. -/
theorem standsAt_of_ofSource {source : String} (read : ofSource config source = .ok tokens) :
    ∀ token ∈ tokens, StandsAt source token.lexeme token.position := by
  obtain ⟨complete, rfl⟩ := scan_of_ofSource read
  have tiled := tiled_of_scan complete
  intro token member
  obtain ⟨found, inside, rfl⟩ := List.mem_map.mp member
  obtain ⟨start, placed, front⟩ := tiled.exists_start found inside
  rw [classify_lexeme, classify_position]
  refine ⟨start, by rw [placed, Nat.zero_add], ?_, front⟩
  by_contra beyond
  rw [← String.length_toList, not_lt] at beyond
  rw [List.drop_eq_nil_of_le beyond] at front
  exact nonempty_of_tiled tiled found inside (List.prefix_nil.mp front)

/-- A character that starts no token stands where it is said to. -/
theorem exists_of_stuck {position : Nat} {text : List Char} {error : Unrecognized}
    (stuck : scan position text = (tokens, some error)) :
    ∃ front rest, text = front ++ error.character :: rest ∧
      error.position = position + front.length := by
  fun_induction scan position text generalizing tokens with
  | case1 position text finished => cases stuck
  | case2 position text error here =>
      cases stuck
      cases next_eq_iff.mp here with
      | @stuck blanks rest c split blank visible formless => exact ⟨blanks, rest, split, rfl⟩
  | case3 position text token stop rest found shorter others other again ih =>
      cases stuck
      obtain ⟨front, behind, rfl, placed⟩ := ih again
      cases next_eq_iff.mp found with
      | @found blanks _ lexeme split blank visible longest =>
          refine ⟨blanks ++ (lexeme.chars ++ front), behind, by rw [split]; simp, ?_⟩
          rw [placed, List.length_append, List.length_append]
          omega

end Token

namespace ParseProblem

/-- What a problem names stands in the source at the place of the problem: the character that
starts no token, the opening bracket of an empty pair, or else the token, where a sign may
have turned into the negation. -/
def Located (source : String) (problem : ParseProblem) : Prop :=
  match problem with
  | unrecognized error =>
    StandsAt source (String.singleton error.character) problem.report.position
  | emptyBrackets bracket _ =>
    (closerOf? bracket).isSome = true ∧ StandsAt source bracket problem.report.position
  | _ => ∃ lexeme ∈ problem.report.lexeme, StandsAt source lexeme problem.report.position ∨
    (lexeme = "negate" ∧ StandsAt source "-" problem.report.position)

theorem located_unrecognized {source : String} {error : Unrecognized}
    (stuck : Token.ofSource config source = .error (.unrecognized error)) :
    (unrecognized error).Located source := by
  unfold Token.ofSource Token.ofText at stuck
  rcases scanned : Token.scan 0 source.toList with ⟨found, _ | other⟩
  · rw [scanned] at stuck
    cases stuck
  · rw [scanned] at stuck
    cases stuck
    obtain ⟨front, rest, split, placed⟩ := Token.exists_of_stuck scanned
    rw [Nat.zero_add] at placed
    refine ⟨front.length, congrArg Int.ofNat placed, ?_, ?_⟩
    · rw [← String.length_toList, split, List.length_append, List.length_cons]
      omega
    · rw [split, List.drop_left]
      exact ⟨rest, by simp⟩

end ParseProblem

/-- A token of the text stands there, as it is or as a minus sign. -/
theorem Token.StemsFrom.standsAt {source : String} {token : Token}
    (stands : ∀ token ∈ tokens, StandsAt source token.lexeme token.position)
    (stems : token.StemsFrom tokens) : StandsAt source token.lexeme token.position ∨
      (token.lexeme = "negate" ∧ StandsAt source "-" token.position) := by
  obtain ⟨origin, member, position, same | ⟨renamed, sign⟩⟩ := stems
  · rw [same, position]
    exact .inl (stands origin member)
  · rw [position, ← sign]
    exact .inr ⟨renamed, stands origin member⟩

namespace ParseProblem

theorem located_of_stemsFrom {source : String} {problem : ParseProblem}
    (stands : ∀ token ∈ tokens, StandsAt source token.lexeme token.position)
    (stems : problem.StemsFrom tokens) :
    problem.Located source ∨
      (problem.report.kind = .tooDeeplyNested ∧ problem.report.position = -1) := by
  cases problem with
  | unrecognized error => exact absurd stems id
  | unclosedBracket token => exact .inl ⟨_, rfl, Token.StemsFrom.standsAt stands stems⟩
  | strayBracket token => exact .inl ⟨_, rfl, Token.StemsFrom.standsAt stands stems⟩
  | mismatchedBrackets opener token => exact .inl ⟨_, rfl, Token.StemsFrom.standsAt stands stems⟩
  | misplaced token reason => exact .inl ⟨_, rfl, Token.StemsFrom.standsAt stands stems⟩
  | missingOperand token side => exact .inl ⟨_, rfl, Token.StemsFrom.standsAt stands stems⟩
  | emptyBrackets bracket position =>
      obtain ⟨opener, member, opens, rfl, rfl⟩ := stems
      exact .inl ⟨opens.2, stands opener member⟩
  | tooDeep token limit =>
      cases token with
      | none => exact .inr ⟨rfl, rfl⟩
      | some token =>
          rcases stems token rfl with synthetic | stems
          · exact .inr ⟨rfl, synthetic⟩
          · exact .inl ⟨_, rfl, Token.StemsFrom.standsAt stands stems⟩

theorem located_of_parse {source : String} {problem : ParseProblem}
    (failed : parse config source = .error problem) :
    problem.Located source ∨
      (problem.report.kind = .tooDeeplyNested ∧ problem.report.position = -1) := by
  rcases error_or_exists_of_bind failed with stuck | ⟨tokens, read, failed⟩
  · obtain ⟨error, rfl⟩ := Token.exists_unrecognized_of_ofSource stuck
    exact .inl (located_unrecognized stuck)
  · exact located_of_stemsFrom (Token.standsAt_of_ofSource read)
      (Tree.stemsFrom_of_ofTokens (Token.classified_of_ofSource read)
        (Token.position_nonneg_of_ofSource read) failed)

theorem Located.inside {source : String} {problem : ParseProblem}
    (located : problem.Located source) :
    0 ≤ problem.report.position ∧ problem.report.position < source.length := by
  have place : ∀ {text position}, StandsAt source text position →
      0 ≤ position ∧ position < source.length := by
    rintro text position ⟨start, rfl, inside, -⟩
    exact ⟨Int.natCast_nonneg start, Int.ofNat_lt.mpr inside⟩
  cases problem with
  | unrecognized error => exact place located
  | emptyBrackets bracket position => exact place located.2
  | unclosedBracket | strayBracket | mismatchedBrackets | misplaced | missingOperand | tooDeep =>
      obtain ⟨lexeme, -, named | ⟨-, sign⟩⟩ := located
      · exact place named
      · exact place sign

/-- The diagnostic that is shown has the text and the place of the problem. -/
theorem explain_diagnostic (source : String) (problem : ParseProblem) :
    (problem.explain source).diagnostic = problem.report.diagnostic (some source) := by
  cases problem <;> rfl

end ParseProblem

/-- **Problems have a place.** The diagnostic of a text that is refused holds the text, and
its position is one inside of the text, where that stands which the problem names: never a
product that was put in. Only a problem of the limit of nesting may have no place, and then
its position is `-1`. -/
theorem exists_diagnostic_of_parse {source : String} {problem : ParseProblem}
    (failed : parse config source = .error problem) :
    ∃ diagnostic, explained source (parse config source) = .error ⟨problem, diagnostic⟩ ∧
      diagnostic.source = some source ∧ diagnostic.position = problem.report.position ∧
      ((0 ≤ diagnostic.position ∧ diagnostic.position < source.length ∧ problem.Located source) ∨
        (problem.report.kind = .tooDeeplyNested ∧ diagnostic.position = -1)) := by
  have diagnostic := problem.explain_diagnostic source
  refine ⟨(problem.explain source).diagnostic, by rw [failed]; rfl, ?_, ?_, ?_⟩
  · rw [diagnostic]
    rfl
  · rw [diagnostic]
    rfl
  · rw [diagnostic]
    rcases ParseProblem.located_of_parse failed with located | unplaced
    · exact .inl ⟨located.inside.1, located.inside.2, located⟩
    · exact .inr unplaced

/-- In `2pi(-)` the sign lacks an operand, not the product in front of the bracket. With one
level only, the product in `1+2pi` is too deep, and it has no place. -/
theorem exists_diagnostic_of_parse_sign :
    let sign : Token := ⟨.operator, "negate", none, 4, some .prefixed, false⟩
    let problem := ParseProblem.missingOperand sign .right
    let product : Token := Token.impliedProduct.infixed
    parse .standard "2pi(-)" = .error problem ∧ (∃ diagnostic,
      explained "2pi(-)" (parse .standard "2pi(-)") = .error ⟨problem, diagnostic⟩ ∧
        diagnostic.position = 4 ∧ diagnostic.source = some "2pi(-)") ∧
      parse { maxDepth := 1 } "1+2pi" = .error (.tooDeep (some product) 1) ∧
      product.position = -1 := by
  intro sign problem product
  have failed : parse .standard "2pi(-)" = .error problem := by cbv
  obtain ⟨diagnostic, told, source, position, -⟩ := exists_diagnostic_of_parse failed
  exact ⟨failed, ⟨diagnostic, told, position, source⟩, by cbv, rfl⟩

end Calculator
