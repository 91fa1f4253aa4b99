import Calculator.Group.Brackets
import Calculator.Proofs.Result
import Calculator.Proofs.Token.Role

/-!
# Bracket trees and the tokens they stand for

Items spell a list of tokens if writing every group between its brackets gives
that list (`Item.Spells`). Nesting brackets is the inverse: what it returns spells
the tokens that were read (`Group.spells_of_ofTokens`), and tokens that are spelled
by items of moderate depth are nested into them (`Group.nest_append`).
-/

namespace Calculator

namespace Item

/-- Items and the tokens they stand for. The closing bracket of a group is not
kept in it and may be any that closes the group. -/
inductive Spells (config : Config) : List Item → List Token → Prop
  | nil : Spells config [] []
  | single {token : Token} {items : List Item} {tokens : List Token}
      (plain : token.kind ≠ .bracket) (rest : Spells config items tokens) :
      Spells config (.single token :: items) (token :: tokens)
  | group {opener closer : Token} {inner items : List Item} {content tokens : List Token}
      (opens : opener.IsOpener) (closes : Token.Closes config opener closer)
      (inside : Spells config inner content) (rest : Spells config items tokens) :
      Spells config (.group (some opener.lexeme) opener.position inner :: items)
        (opener :: (content ++ closer :: tokens))

theorem Spells.append {config : Config} {first second : List Item} {left right : List Token}
    (spellsFirst : Spells config first left) (spellsSecond : Spells config second right) :
    Spells config (first ++ second) (left ++ right) := by
  induction spellsFirst with
  | nil => exact spellsSecond
  | single plain rest ih => exact .single plain ih
  | group opens closes inside rest _ ih =>
      rw [List.cons_append, List.cons_append, List.append_assoc, List.cons_append]
      exact .group opens closes inside ih

/-- The tokens of two lists of items put together fall into two parts. -/
theorem Spells.exists_append {config : Config} {first second : List Item} {tokens : List Token}
    (spells : Spells config (first ++ second) tokens) :
    ∃ left right, tokens = left ++ right ∧ Spells config first left ∧
      Spells config second right := by
  induction first generalizing tokens with
  | nil => exact ⟨[], tokens, rfl, .nil, spells⟩
  | cons item rest ih =>
      cases spells with
      | single plain later =>
          obtain ⟨left, right, rfl, spellsRest, spellsSecond⟩ := ih later
          exact ⟨_ :: left, right, rfl, .single plain spellsRest, spellsSecond⟩
      | @group opener closer inner _ content _ opens closes inside later =>
          obtain ⟨left, right, rfl, spellsRest, spellsSecond⟩ := ih later
          refine ⟨opener :: (content ++ closer :: left), right, by simp, ?_, spellsSecond⟩
          exact .group opens closes inside spellsRest

mutual

/-- How many brackets enclose the innermost token of an item. -/
def nesting : Item → Nat
  | .single _ => 0
  | .group _ _ items => nestingIn items + 1

/-- How many brackets enclose the innermost token of several items. -/
def nestingIn : List Item → Nat
  | [] => 0
  | item :: rest => max item.nesting (nestingIn rest)

end

theorem nestingIn_append (first second : List Item) :
    nestingIn (first ++ second) = max (nestingIn first) (nestingIn second) := by
  induction first with
  | nil => simp [nestingIn]
  | cons item rest ih => rw [List.cons_append, nestingIn, nestingIn, ih, Nat.max_assoc]

end Item

/-- The check of a closing bracket finds out whether it closes the group. -/
theorem Token.IsCloser.mismatches_iff {token : Token} (closes : token.IsCloser) (config : Config)
    (opener : Token) :
    (config.strictBrackets && closerOf? opener.lexeme != some token.lexeme) = true ↔
      ¬ Token.Closes config opener token := by
  cases strict : config.strictBrackets with
  | false => simp [Token.Closes, closes, strict]
  | true => simp [Token.Closes, closes, strict]

/-- What nesting does at a token depends on what kind of bracket it is, if any. An opening
bracket hands what is left behind its group to the same reading again. -/
theorem Token.bracket_induction {P : List Token → Prop} (nil : P [])
    (plain : ∀ token tokens, token.kind ≠ .bracket → P tokens → P (token :: tokens))
    (opener : ∀ token tokens, token.IsOpener →
      (∀ behind, behind.length ≤ tokens.length → P behind) → P (token :: tokens))
    (closer : ∀ token tokens, token.IsCloser → P (token :: tokens)) (tokens : List Token) :
    P tokens := by
  induction count : tokens.length using Nat.strongRecOn generalizing tokens with
  | _ count ih =>
    subst count
    cases tokens with
    | nil => exact nil
    | cons token tokens =>
        have later : ∀ behind, behind.length ≤ tokens.length → P behind :=
          fun behind shorter => ih behind.length (Nat.lt_succ_of_le shorter) behind rfl
        by_cases bracket : token.kind = .bracket
        · cases opens : token.opensGroup with
          | true => exact opener token tokens ⟨bracket, opens⟩ later
          | false => exact closer token tokens ⟨bracket, opens⟩
        · exact plain token tokens bracket (later tokens (Nat.le_refl _))

namespace Group

/-- `Group.collect` without the bound on the tokens that are left. -/
def nest (config : Config) (opener : Option Token) (depth : Nat) (tokens : List Token) :
    Except ParseProblem (List Item × List Token) :=
  (collect config opener depth tokens).map fun answer => (answer.1, answer.2.1)

variable {config : Config} {depth : Nat}

theorem nest_nil_none : nest config none depth [] = .ok ([], []) := by
  unfold nest collect
  rfl

theorem nest_nil_some (opener : Token) :
    nest config (some opener) depth [] = .error (.unclosedBracket opener) := by
  unfold nest collect
  rfl

theorem nest_single {token : Token} (plain : token.kind ≠ .bracket) (opener : Option Token)
    (tokens : List Token) :
    nest config opener depth (token :: tokens) =
      (nest config opener depth tokens).map fun answer =>
        (.single token :: answer.1, answer.2) := by
  unfold nest
  rw [collect.eq_def]
  simp only [ne_eq, plain, not_false_eq_true, ↓reduceIte, bind]
  rcases collect config opener depth tokens with problem | ⟨items, rest, shorter⟩ <;> rfl

theorem nest_opener {token : Token} (opens : token.IsOpener) (opener : Option Token)
    (tokens : List Token) :
    nest config opener depth (token :: tokens) =
      if config.maxDepth < depth + 1 then .error (.tooDeep (some token) config.maxDepth)
      else (nest config (some token) (depth + 1) tokens).bind fun inner =>
        (nest config opener depth inner.2).map fun answer =>
          (.group (some token.lexeme) token.position inner.1 :: answer.1, answer.2) := by
  unfold nest
  rw [collect.eq_def]
  simp only [ne_eq, opens.1, not_true_eq_false, ↓reduceIte, opens.2, bind]
  split
  · rfl
  · rcases collect config (some token) (depth + 1) tokens with problem | ⟨inner, behind, shorter⟩
    · rfl
    · simp only [Except.bind, Except.map]
      rcases collect config opener depth behind with problem | ⟨items, rest, less⟩ <;> rfl

theorem nest_stray {token : Token} (closes : token.IsCloser) (tokens : List Token) :
    nest config none depth (token :: tokens) = .error (.strayBracket token) := by
  unfold nest
  rw [collect]
  simp only [ne_eq, closes.1, not_true_eq_false, ↓reduceIte, closes.2, Bool.false_eq_true]
  rfl

theorem nest_mismatched {token opener : Token} (closes : token.IsCloser)
    (different : ¬ Token.Closes config opener token) (tokens : List Token) :
    nest config (some opener) depth (token :: tokens) =
      .error (.mismatchedBrackets opener token) := by
  unfold nest
  rw [collect]
  have unequal := (closes.mismatches_iff config opener).mpr different
  simp only [ne_eq, closes.1, not_true_eq_false, ↓reduceIte, closes.2, Bool.false_eq_true, unequal]
  rfl

theorem nest_closer {token opener : Token} (closes : Token.Closes config opener token)
    (tokens : List Token) :
    nest config (some opener) depth (token :: tokens) = .ok ([], tokens) := by
  unfold nest
  rw [collect]
  have equal := Bool.eq_false_iff.mpr fun unequal =>
    (closes.1.mismatches_iff config opener).mp unequal closes
  simp only [ne_eq, closes.1.1, not_true_eq_false, ↓reduceIte, closes.1.2, Bool.false_eq_true,
    equal]
  rfl

theorem length_nest_le {opener : Option Token} {tokens rest : List Token} {items : List Item}
    (nested : nest config opener depth tokens = .ok (items, rest)) :
    rest.length ≤ tokens.length := by
  obtain ⟨⟨found, behind, bound⟩, -, same⟩ := exists_of_map nested
  cases same
  exact bound

/-- A problem of brackets that do not pair up, do not match although they have to, or
nest too deep. -/
def Fault (config : Config) (problem : ParseProblem) : Prop :=
  problem.report.kind = .unbalancedBrackets ∨
    (problem.report.kind = .mismatchedBrackets ∧ config.strictBrackets = true) ∨
      problem.report.kind = .tooDeeplyNested

/-- The content is followed by a bracket that closes the opener, or, without one, by
nothing. -/
def Ends (config : Config) (opener : Option Token) (content tokens rest : List Token) : Prop :=
  match opener with
  | none => tokens = content ∧ rest = []
  | some opener => ∃ closer, Token.Closes config opener closer ∧ tokens = content ++ closer :: rest

theorem Ends.append_left {opener : Option Token} {content tokens rest : List Token}
    (ends : Ends config opener content tokens rest) (front : List Token) :
    Ends config opener (front ++ content) (front ++ tokens) rest := by
  cases opener with
  | none =>
      obtain ⟨rfl, rfl⟩ := ends
      exact ⟨rfl, rfl⟩
  | some opener =>
      obtain ⟨closer, closes, rfl⟩ := ends
      exact ⟨closer, closes, (List.append_assoc ..).symm⟩

/-- What nesting may answer: a fault of the brackets, or items that spell the tokens in
front of what is left. -/
def Nested (config : Config) (opener : Option Token) (tokens : List Token) :
    Except ParseProblem (List Item × List Token) → Prop
  | .error problem => Fault config problem
  | .ok (items, rest) =>
    ∃ content, Item.Spells config items content ∧ Ends config opener content tokens rest

theorem nested_single {token : Token} {tokens : List Token} {opener : Option Token}
    (plain : token.kind ≠ .bracket)
    (later : Nested config opener tokens (nest config opener depth tokens)) :
    Nested config opener (token :: tokens) (nest config opener depth (token :: tokens)) := by
  rw [nest_single plain]
  generalize nest config opener depth tokens = answer at later
  rcases answer with problem | ⟨items, rest⟩
  · exact later
  · obtain ⟨content, spells, ends⟩ := later
    exact ⟨token :: content, .single plain spells, ends.append_left [token]⟩

theorem nested_closer {token : Token} (closes : token.IsCloser) (opener : Option Token)
    (tokens : List Token) :
    Nested config opener (token :: tokens) (nest config opener depth (token :: tokens)) := by
  cases opener with
  | none =>
      rw [nest_stray closes]
      exact .inl rfl
  | some opener =>
      by_cases matching : Token.Closes config opener token
      · rw [nest_closer matching]
        exact ⟨[], .nil, token, matching, rfl⟩
      · rw [nest_mismatched closes matching]
        refine .inr (.inl ⟨rfl, ?_⟩)
        by_cases strict : config.strictBrackets = true
        · exact strict
        · exact absurd ⟨closes, fun impossible => absurd impossible strict⟩ matching

theorem nested_opener {token : Token} {tokens : List Token} {opener : Option Token}
    (opens : token.IsOpener)
    (inside : Nested config (some token) tokens (nest config (some token) (depth + 1) tokens))
    (later : ∀ behind, behind.length < tokens.length →
      Nested config opener behind (nest config opener depth behind)) :
    Nested config opener (token :: tokens) (nest config opener depth (token :: tokens)) := by
  rw [nest_opener opens]
  split
  · exact .inr (.inr rfl)
  generalize nest config (some token) (depth + 1) tokens = answer at inside
  rcases answer with problem | ⟨inner, behind⟩
  · exact inside
  obtain ⟨content, spellsInner, closer, closes, rfl⟩ := inside
  have shorter : behind.length < (content ++ closer :: behind).length := by
    simp only [List.length_append, List.length_cons]
    omega
  have after := later behind shorter
  simp only [Except.bind]
  generalize nest config opener depth behind = answer at after
  rcases answer with problem | ⟨items, rest⟩
  · exact after
  · obtain ⟨remaining, spells, ends⟩ := after
    refine ⟨token :: (content ++ closer :: remaining), .group opens closes spellsInner spells, ?_⟩
    have whole := ends.append_left (token :: (content ++ [closer]))
    simpa using whole

/-- Nesting brackets spells the tokens or finds a fault in them. -/
theorem nested_nest (opener : Option Token) (depth : Nat) (tokens : List Token) :
    Nested config opener tokens (nest config opener depth tokens) := by
  induction tokens using Token.bracket_induction generalizing opener depth with
  | nil =>
      cases opener with
      | none =>
          rw [nest_nil_none]
          exact ⟨[], .nil, rfl, rfl⟩
      | some opener =>
          rw [nest_nil_some]
          exact .inl rfl
  | plain token tokens plain ih => exact nested_single plain (ih opener depth)
  | opener token tokens opens ih =>
      refine nested_opener opens (ih tokens (Nat.le_refl _) (some token) (depth + 1)) ?_
      exact fun behind shorter => ih behind shorter.le opener depth
  | closer token tokens closes => exact nested_closer closes opener tokens

open Item in
/-- Tokens spelled by items that do not nest too deep are read as these items,
whatever follows. -/
theorem nest_append {items : List Item} {content : List Token}
    (spells : Spells config items content) (opener : Option Token) (depth : Nat)
    (rest : List Token) (shallow : depth + nestingIn items ≤ config.maxDepth) :
    nest config opener depth (content ++ rest) =
      (nest config opener depth rest).map fun answer => (items ++ answer.1, answer.2) := by
  induction spells generalizing opener depth rest with
  | nil =>
      rw [List.nil_append]
      rcases nest config opener depth rest with problem | answer <;> rfl
  | single plain _ ih =>
      simp only [nestingIn, nesting] at shallow
      rw [List.cons_append, nest_single plain, ih opener depth rest (by omega)]
      rcases nest config opener depth rest with problem | answer <;> rfl
  | @group first closer inner items content tokens opens closes _ _ innerIh ih =>
      simp only [nestingIn, nesting] at shallow
      have nested : nest config (some first) (depth + 1) (content ++ closer :: (tokens ++ rest)) =
          .ok (inner, tokens ++ rest) := by
        rw [innerIh (some first) (depth + 1) _ (by omega), nest_closer closes]
        simp [Except.map]
      rw [List.cons_append, List.append_assoc, List.cons_append, nest_opener opens,
        if_neg (by omega), nested]
      simp only [Except.bind]
      rw [ih opener depth rest (by omega)]
      rcases nest config opener depth rest with problem | answer <;> rfl

theorem ofTokens_eq_nest (tokens : List Token) :
    ofTokens config tokens =
      (nest config none 0 tokens).map fun answer => { items := answer.1 } := by
  unfold ofTokens nest
  rcases collect config none 0 tokens with problem | answer <;> rfl

theorem spells_of_ofTokens {tokens : List Token} {group : Group}
    (bracketed : ofTokens config tokens = .ok group) :
    Item.Spells config group.items tokens := by
  have answer : Nested config none tokens (nest config none 0 tokens) := nested_nest none 0 tokens
  rw [ofTokens_eq_nest] at bracketed
  obtain ⟨⟨items, rest⟩, found, rfl⟩ := exists_of_map bracketed
  rw [found] at answer
  obtain ⟨content, spells, rfl, -⟩ := answer
  exact spells

theorem fault_of_ofTokens {tokens : List Token} {problem : ParseProblem}
    (failed : ofTokens config tokens = .error problem) : Fault config problem := by
  have answer : Nested config none tokens (nest config none 0 tokens) := nested_nest none 0 tokens
  rw [ofTokens_eq_nest] at failed
  rw [error_of_map failed] at answer
  exact answer

theorem ofTokens_of_spells {tokens : List Token} {items : List Item}
    (spells : Item.Spells config items tokens) (shallow : Item.nestingIn items ≤ config.maxDepth) :
    ofTokens config tokens = .ok { items := items } := by
  have answer := nest_append spells none 0 [] (by omega)
  rw [List.append_nil, nest_nil_none] at answer
  rw [ofTokens_eq_nest, answer]
  simp [Except.map]

end Group

end Calculator
