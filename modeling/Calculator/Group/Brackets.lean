import Calculator.Group.Basic
import Calculator.Problem

/-!
# Nesting brackets

`Group.ofTokens` replaces every bracketed span by a group and drops the bracket
tokens. The first fault in reading order is reported: an opening bracket beyond
the limit of nesting, a closing one without a partner or, where brackets have to
match, of another kind, and at the end an opening one that was never closed.
-/

namespace Calculator

def Token.opensGroup (token : Token) : Bool := (closerOf? token.lexeme).isSome

namespace Group

/-- The items up to the bracket that closes the given opener, at the given depth,
and the tokens behind it. Without an opener the items reach to the end. -/
def collect (config : Config) (opener : Option Token) (depth : Nat) :
    (tokens : List Token) →
      Except ParseProblem (List Item × { rest : List Token // rest.length ≤ tokens.length })
  | [] =>
    match opener with
    | some opener => .error (.unclosedBracket opener)
    | none => .ok ([], ⟨[], Nat.le_refl _⟩)
  | token :: tokens =>
    if token.kind ≠ .bracket then do
      let (items, ⟨rest, shorter⟩) ← collect config opener depth tokens
      .ok (.single token :: items, ⟨rest, Nat.le_succ_of_le shorter⟩)
    else if token.opensGroup then
      if config.maxDepth < depth + 1 then .error (.tooDeep (some token) config.maxDepth)
      else do
        let (inner, ⟨behind, _⟩) ← collect config (some token) (depth + 1) tokens
        let (items, ⟨rest, shorter⟩) ← collect config opener depth behind
        .ok (.group (some token.lexeme) token.position inner :: items,
          ⟨rest, by simp only [List.length_cons]; omega⟩)
    else
      match opener with
      | none => .error (.strayBracket token)
      | some opener =>
        if config.strictBrackets && closerOf? opener.lexeme != some token.lexeme then
          .error (.mismatchedBrackets opener token)
        else .ok ([], ⟨tokens, Nat.le_succ _⟩)
termination_by tokens => tokens.length
decreasing_by all_goals simp only [List.length_cons]; omega

def ofTokens (config : Config) (tokens : List Token) : Except ParseProblem Group :=
  (collect config none 0 tokens).map fun result => { items := result.1 }

end Group

end Calculator
