import Calculator.Proofs.Precedence
import Calculator.Proofs.Result
import Calculator.Tree.Stack

/-!
# The stack of a postfix reader

Every token changes the height of the stack by a fixed amount, its gain, and leaves
at least one tree on it (`Tree.length_of_run`). A reader that meets no bracket
fails only for want of an operand (`Tree.exists_missing_of_run`).
-/

namespace Calculator

/-- What a token adds to the height of the stack. -/
def Token.gain (token : Token) : Int :=
  if token.kind = .number then 1 else if Operator.isInfixed token.lexeme then -1 else 0

namespace Tree

def run (tokens : List Token) (stack : List Tree) : Except ParseProblem (List Tree) :=
  tokens.foldlM shift stack

theorem run_cons (token : Token) (tokens : List Token) (stack : List Tree) :
    run (token :: tokens) stack = (shift stack token).bind (run tokens) := rfl

theorem run_append (first second : List Token) (stack : List Tree) :
    run (first ++ second) stack = (run first stack).bind (run second) := by
  unfold run
  rw [List.foldlM_append]
  rfl

theorem run_singleton (token : Token) (stack : List Tree) :
    run [token] stack = shift stack token := by
  rw [run_cons]
  rcases shift stack token with problem | after <;> rfl

theorem ofPostfix_eq_run (tokens : List Token) :
    ofPostfix tokens = (run tokens []).map List.reverse := rfl

theorem shift_number {token : Token} (number : token.kind = .number) (stack : List Tree) :
    shift stack token = .ok (leaf token :: stack) := by
  unfold shift
  rw [number]

theorem shift_bracket {token : Token} (bracket : token.kind = .bracket) (stack : List Tree) :
    shift stack token = .error (.misplaced token .bracketInPostfix) := by
  unfold shift
  rw [bracket]

theorem shift_between {token : Token} (operator : token.kind = .operator)
    (between : Operator.isInfixed token.lexeme = true) (left right : Tree) (stack : List Tree) :
    shift (right :: left :: stack) token = .ok (binary token.infixed left right :: stack) := by
  simp only [shift, Token.infixed, operator, between, ↓reduceIte]

theorem shift_one {token : Token} (operator : token.kind = .operator)
    (single : Operator.isInfixed token.lexeme = false) (operand : Tree) (stack : List Tree) :
    shift (operand :: stack) token = .ok (unary token.overOne operand :: stack) := by
  simp only [shift, Token.overOne, operator, single, Bool.false_eq_true, ↓reduceIte]

/-- A token that takes operands from the stack. -/
def Operates (token : Token) : Prop := token.kind = .operator ∨ token.kind = .identifier

theorem shift_operator {token : Token} (operates : Operates token) (stack : List Tree) :
    shift stack token =
      if Operator.isInfixed token.lexeme then
        match stack with
        | right :: left :: rest => .ok (binary token.infixed left right :: rest)
        | _ => .error (.missingOperand token .left)
      else
        match stack with
        | operand :: rest => .ok (unary token.overOne operand :: rest)
        | [] => .error (.missingOperand token .left) := by
  unfold shift
  split
  · rename_i bracket
    rcases operates with kind | kind <;> cases bracket.symm.trans kind
  · rename_i number
    rcases operates with kind | kind <;> cases number.symm.trans kind
  · rfl
  · rfl

/-- What a token does to the stack: a number goes on it, and an operator takes two trees
or one. -/
theorem cases_of_shift {token : Token} {stack after : List Tree}
    (shifted : shift stack token = .ok after) :
    (token.kind = .number ∧ after = leaf token :: stack) ∨
    (Operates token ∧ Operator.isInfixed token.lexeme = true ∧
      ∃ left right rest, stack = right :: left :: rest ∧
        after = binary token.infixed left right :: rest) ∨
    (Operates token ∧ Operator.isInfixed token.lexeme = false ∧
      ∃ operand rest, stack = operand :: rest ∧
        after = unary token.overOne operand :: rest) := by
  by_cases operates : Operates token
  · rw [shift_operator operates] at shifted
    split at shifted
    · rename_i between
      split at shifted
      · cases shifted
        exact .inr (.inl ⟨operates, between, _, _, _, rfl, rfl⟩)
      · cases shifted
    · rename_i single
      split at shifted
      · cases shifted
        exact .inr (.inr ⟨operates, Bool.eq_false_iff.mpr single, _, _, rfl, rfl⟩)
      · cases shifted
  · unfold shift at shifted
    split at shifted
    · cases shifted
    · rename_i number
      cases shifted
      exact .inl ⟨number, rfl⟩
    · rename_i kind
      exact absurd (.inl kind) operates
    · rename_i kind
      exact absurd (.inr kind) operates

theorem Operates.kind_ne_number {token : Token} (operates : Operates token) :
    token.kind ≠ .number := by
  rcases operates with kind | kind <;> rw [kind] <;> exact fun same => nomatch same

/-- A token changes the height of the stack by its gain. -/
theorem length_of_shift {token : Token} {stack after : List Tree}
    (shifted : shift stack token = .ok after) :
    (after.length : Int) = stack.length + token.gain ∧ after ≠ [] := by
  rcases cases_of_shift shifted with ⟨number, rfl⟩ |
    ⟨operates, between, left, right, rest, rfl, rfl⟩ | ⟨operates, single, operand, rest, rfl, rfl⟩
  · refine ⟨?_, List.cons_ne_nil _ _⟩
    simp [Token.gain, number]
  · refine ⟨?_, List.cons_ne_nil _ _⟩
    simp only [Token.gain, if_neg operates.kind_ne_number, if_pos between, List.length_cons]
    omega
  · refine ⟨?_, List.cons_ne_nil _ _⟩
    simp [Token.gain, operates.kind_ne_number, single]

/-- Several tokens change the height of the stack by the sum of their gains. -/
theorem length_of_run {tokens : List Token} {stack after : List Tree}
    (ran : run tokens stack = .ok after) :
    (after.length : Int) = stack.length + (tokens.map Token.gain).sum ∧
      (tokens ≠ [] → after ≠ []) := by
  induction tokens generalizing stack with
  | nil =>
      cases ran
      exact ⟨by simp, fun impossible => absurd rfl impossible⟩
  | cons token tokens ih =>
      rw [run_cons] at ran
      obtain ⟨middle, shifted, ran⟩ := exists_of_bind ran
      obtain ⟨height, some⟩ := length_of_shift shifted
      obtain ⟨total, kept⟩ := ih ran
      constructor
      · rw [List.map_cons, List.sum_cons]
        omega
      · intro _
        cases tokens with
        | nil =>
            cases ran
            exact some
        | cons next others => exact kept (List.cons_ne_nil _ _)

theorem exists_missing_of_shift {token : Token} {stack : List Tree} {problem : ParseProblem}
    (plain : token.kind ≠ .bracket) (failed : shift stack token = .error problem) :
    problem = .missingOperand token .left := by
  cases kind : token.kind with
  | bracket => exact absurd kind plain
  | number =>
      rw [shift_number kind] at failed
      cases failed
  | operator | identifier =>
      have operates : Operates token := by simp [Operates, kind]
      rw [shift_operator operates] at failed
      split at failed
      · split at failed
        · cases failed
        · exact (Except.error.inj failed).symm
      · split at failed
        · cases failed
        · exact (Except.error.inj failed).symm

/-- Without brackets there is only one way to fail. -/
theorem exists_missing_of_run {tokens : List Token} {stack : List Tree} {problem : ParseProblem}
    (plain : ∀ token ∈ tokens, token.kind ≠ .bracket)
    (failed : run tokens stack = .error problem) :
    ∃ token ∈ tokens, problem = .missingOperand token .left := by
  induction tokens generalizing stack with
  | nil => cases failed
  | cons token tokens ih =>
      rw [run_cons] at failed
      rcases error_or_exists_of_bind failed with shifted | ⟨middle, -, failed⟩
      · exact ⟨token, List.mem_cons_self,
          exists_missing_of_shift (plain token List.mem_cons_self) shifted⟩
      · obtain ⟨other, member, same⟩ :=
          ih (fun other member => plain other (List.mem_cons_of_mem _ member)) failed
        exact ⟨other, List.mem_cons_of_mem _ member, same⟩

end Tree

end Calculator
