import Calculator.Proofs.Group.Nesting

/-!
# Nesting brackets in one pass

Brackets can be checked in one pass with a stack of the brackets that are open
(`Pushdown.run`). Nesting them comes to the same: it is the run up to the bracket that
closes the top of the stack, followed by the run from there (`Pushdown.Nests`). So both
report the same problem. If there is none, the groups spell the tokens, with every bracket
in its place, and writing every group between brackets gives the tokens back
(`Group.ofTokens_of_run`).
-/

namespace Calculator

namespace Pushdown

/-- What a token does to the stack of open brackets, of which the innermost is on top. -/
def step (config : Config) (stack : List Token) (token : Token) :
    Except ParseProblem (List Token) :=
  if token.kind ≠ .bracket then .ok stack
  else if token.opensGroup then
    if config.maxDepth < (token :: stack).length then
      .error (.tooDeep (some token) config.maxDepth)
    else .ok (token :: stack)
  else
    match stack with
    | [] => .error (.strayBracket token)
    | opener :: below =>
      if config.strictBrackets && closerOf? opener.lexeme != some token.lexeme then
        .error (.mismatchedBrackets opener token)
      else .ok below

/-- No bracket may be open at the end. -/
def finish : List Token → Except ParseProblem Unit
  | [] => .ok ()
  | opener :: _ => .error (.unclosedBracket opener)

/-- The pass over the tokens, starting with the given stack. -/
def run (config : Config) (stack tokens : List Token) : Except ParseProblem Unit :=
  (tokens.foldlM (step config) stack).bind finish

variable {config : Config} {token opener : Token} {stack tokens : List Token}

@[simp] theorem run_nil (config : Config) (stack : List Token) :
    run config stack [] = finish stack := rfl

theorem run_cons (token : Token) (tokens : List Token) :
    run config stack (token :: tokens) =
      (step config stack token).bind fun after => run config after tokens := by
  unfold run
  rw [List.foldlM_cons]
  rcases step config stack token with problem | after <;> rfl

theorem step_single (plain : token.kind ≠ .bracket) (stack : List Token) :
    step config stack token = .ok stack := by
  unfold step
  rw [if_pos plain]

theorem step_opener (opens : token.IsOpener) (stack : List Token) :
    step config stack token =
      if config.maxDepth < stack.length + 1 then .error (.tooDeep (some token) config.maxDepth)
      else .ok (token :: stack) := by
  unfold step
  rw [if_neg (not_not_intro opens.1), if_pos opens.2, List.length_cons]

theorem step_stray (closes : token.IsCloser) :
    step config [] token = .error (.strayBracket token) := by
  unfold step
  rw [if_neg (not_not_intro closes.1), if_neg (Bool.eq_false_iff.mp closes.2)]

theorem step_closer (closes : Token.Closes config opener token) (stack : List Token) :
    step config (opener :: stack) token = .ok stack := by
  have matching := Bool.eq_false_iff.mpr fun unequal =>
    (closes.1.mismatches_iff config opener).mp unequal closes
  unfold step
  rw [if_neg (not_not_intro closes.1.1), if_neg (Bool.eq_false_iff.mp closes.1.2)]
  simp only [matching, Bool.false_eq_true, ↓reduceIte]

theorem step_mismatched (closes : token.IsCloser) (different : ¬ Token.Closes config opener token)
    (stack : List Token) :
    step config (opener :: stack) token = .error (.mismatchedBrackets opener token) := by
  have unequal := (closes.mismatches_iff config opener).mpr different
  unfold step
  rw [if_neg (not_not_intro closes.1), if_neg (Bool.eq_false_iff.mp closes.2)]
  simp only [unequal, ↓reduceIte]

/-- A run over the tokens is the nested group up to the bracket that closes the top of the
stack, and the run from there. -/
def Nests (config : Config) (stack tokens : List Token) : Prop :=
  run config stack tokens =
    (Group.nest config stack.head? stack.length tokens).bind fun answer =>
      run config stack.tail answer.2

theorem nests_nil (stack : List Token) : Nests config stack [] := by
  cases stack with
  | nil =>
      rw [Nests, List.head?_nil, Group.nest_nil_none]
      rfl
  | cons opener below =>
      rw [Nests, List.head?_cons, Group.nest_nil_some]
      rfl

theorem nests_single (plain : token.kind ≠ .bracket) (later : Nests config stack tokens) :
    Nests config stack (token :: tokens) := by
  rw [Nests, run_cons, step_single plain, Group.nest_single plain, Except.bind, later]
  rcases Group.nest config stack.head? stack.length tokens with problem | answer <;> rfl

/-- A closing bracket ends the group on top of the stack. -/
theorem nests_closer (closes : token.IsCloser) (stack tokens : List Token) :
    Nests config stack (token :: tokens) := by
  rw [Nests, run_cons]
  cases stack with
  | nil =>
      rw [step_stray closes, List.head?_nil, Group.nest_stray closes]
      rfl
  | cons opener below =>
      rw [List.head?_cons]
      by_cases matching : Token.Closes config opener token
      · rw [step_closer matching, Group.nest_closer matching]
        rfl
      · rw [step_mismatched closes matching, Group.nest_mismatched closes matching]
        rfl

/-- An opening bracket is put on top of the stack and stays there up to the end of its
group. -/
theorem nests_opener (opens : token.IsOpener) (inside : Nests config (token :: stack) tokens)
    (later : ∀ behind, behind.length ≤ tokens.length → Nests config stack behind) :
    Nests config stack (token :: tokens) := by
  rw [Nests, run_cons, step_opener opens, Group.nest_opener opens]
  split
  · rfl
  rw [Except.bind, inside, List.head?_cons, List.length_cons, List.tail_cons]
  rcases nested : Group.nest config (some token) (stack.length + 1) tokens with
    problem | ⟨inner, behind⟩
  · rfl
  · simp only [Except.bind]
    rw [later behind (Group.length_nest_le nested)]
    rcases Group.nest config stack.head? stack.length behind with problem | answer <;> rfl

theorem nests (config : Config) (stack tokens : List Token) : Nests config stack tokens := by
  induction tokens using Token.bracket_induction generalizing stack with
  | nil => exact nests_nil stack
  | plain token tokens plain ih => exact nests_single plain (ih stack)
  | opener token tokens opens ih =>
      refine nests_opener opens (ih tokens (Nat.le_refl _) (token :: stack)) ?_
      exact fun behind shorter => ih behind shorter stack
  | closer token tokens closes => exact nests_closer closes stack tokens

end Pushdown

/-- A token that is written back for a token of the text. The brackets of a group stand for
its bracket and place only, and in lenient mode any bracket may close it. -/
inductive Token.WrittenFor (config : Config) : Token → Token → Prop
  | plain {token : Token} (other : token.kind ≠ .bracket) : WrittenFor config token token
  | opener {token : Token} (opens : token.IsOpener) :
      WrittenFor config { kind := .bracket, lexeme := token.lexeme, position := token.position }
        token
  | closer {written token : Token} (closes : written.IsCloser) (closes' : token.IsCloser)
      (same : config.strictBrackets = true → written.lexeme = token.lexeme) :
      WrittenFor config written token

namespace Item

mutual

/-- The tokens of an item. A group stands between the bracket that opened it and the one that
belongs to it, of which the place is not known. -/
def written : Item → List Token
  | .single token => [token]
  | .group none _ items => writtenIn items
  | .group (some bracket) position items =>
    { kind := .bracket, lexeme := bracket, position := position } ::
      (writtenIn items ++ [{ kind := .bracket, lexeme := (closerOf? bracket).getD "" }])

def writtenIn : List Item → List Token
  | [] => []
  | item :: rest => item.written ++ writtenIn rest

end

/-- The bracket that belongs to an opening one is a closing one. -/
theorem closerOf?_getD_eq_none {bracket : String} (opens : (closerOf? bracket).isSome = true) :
    closerOf? ((closerOf? bracket).getD "") = none := by
  have closing : ∀ pair ∈ bracketPairs, closerOf? (String.singleton pair.2) = none := by decide
  obtain ⟨closer, found⟩ := Option.isSome_iff_exists.mp opens
  obtain ⟨pair, chosen, rfl⟩ := Option.map_eq_some_iff.mp found
  rw [found]
  exact closing pair (List.mem_of_find?_eq_some chosen)

/-- Items that spell tokens are written back as these. -/
theorem Spells.writtenIn {config : Config} {items : List Item} {tokens : List Token}
    (spells : Spells config items tokens) :
    List.Forall₂ (Token.WrittenFor config) (writtenIn items) tokens := by
  induction spells with
  | nil => exact .nil
  | single plain _ ih => exact .cons (.plain plain) ih
  | @group opener closer inner items content tokens opens closes _ _ innerIh ih =>
      have closed : Token.WrittenFor config
          { kind := .bracket, lexeme := (closerOf? opener.lexeme).getD "" } closer := by
        refine .closer ⟨rfl, ?_⟩ closes.1 fun strict => ?_
        · rw [Token.opensGroup, closerOf?_getD_eq_none opens.2]
          rfl
        · rw [closes.2 strict]
          rfl
      have whole := List.rel_append innerIh (List.Forall₂.cons closed ih)
      rw [Item.writtenIn, written, List.cons_append, List.append_assoc]
      exact .cons (.opener opens) whole

end Item

/-- **Nesting in one pass.** Brackets are nested without a problem if one pass with a stack of
open brackets finds none. Then the items spell the tokens: every bracket opens or closes a group,
and none is left among the single items. Writing the groups back gives the tokens. Otherwise the
problem is the one at which the pass stops. -/
theorem Group.ofTokens_of_run (config : Config) (tokens : List Token) :
    match Pushdown.run config [] tokens with
    | .error problem => ofTokens config tokens = .error problem
    | .ok () => ∃ items, ofTokens config tokens = .ok { items := items } ∧
        Item.Spells config items tokens ∧
        List.Forall₂ (Token.WrittenFor config) (Item.writtenIn items) tokens := by
  have ran := Pushdown.nests config [] tokens
  rw [Pushdown.Nests, List.head?_nil, List.length_nil, List.tail_nil] at ran
  have nested : ofTokens config tokens = _ := ofTokens_eq_nest tokens
  rcases answer : nest config none 0 tokens with problem | ⟨items, rest⟩
  · rw [answer] at ran nested
    rw [ran]
    exact nested
  · rw [answer] at nested
    have spells := spells_of_ofTokens nested
    obtain rfl : rest = [] := by
      have ends : Nested config none tokens (nest config none 0 tokens) := nested_nest none 0 tokens
      rw [answer] at ends
      obtain ⟨content, -, -, empty⟩ := ends
      exact empty
    rw [answer] at ran
    rw [ran]
    exact ⟨items, nested, spells, spells.writtenIn⟩

/-- In `(1[2)3]`, where any bracket may close any other, both groups are closed by a bracket
of the other kind. -/
theorem Group.ofTokens_of_run_lenient :
    let config : Config := { strictBrackets := false }
    let bracket (lexeme : String) (position : Int) : Token :=
      { kind := .bracket, lexeme := lexeme, position := position }
    let number (lexeme : String) (n position : Int) : Token :=
      ⟨.number, lexeme, some (.number (.int n)), position, none, false⟩
    let tokens : List Token := [bracket "(" 0, number "1" 1 1, bracket "[" 2, number "2" 2 3,
      bracket ")" 4, number "3" 3 5, bracket "]" 6]
    let items : List Item := [.group (some "(") 0 [.single (number "1" 1 1),
      .group (some "[") 2 [.single (number "2" 2 3)], .single (number "3" 3 5)]]
    Pushdown.run config [] tokens = .ok () ∧ ofTokens config tokens = .ok { items := items } ∧
      Item.Spells config items tokens ∧
      List.Forall₂ (Token.WrittenFor config) (Item.writtenIn items) tokens := by
  intro config bracket number tokens items
  have ran : Pushdown.run config [] tokens = .ok () := by rfl
  have nested : ofTokens config tokens = .ok { items := items } := by cbv
  have reads := ofTokens_of_run config tokens
  rw [ran] at reads
  obtain ⟨found, same, spells, written⟩ := reads
  obtain rfl : found = items := congrArg Group.items (Except.ok.inj (same.symm.trans nested))
  exact ⟨ran, nested, spells, written⟩

end Calculator
