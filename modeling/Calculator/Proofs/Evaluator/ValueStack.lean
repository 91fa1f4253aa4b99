import Calculator.Evaluator.Integer
import Calculator.Parse
import Calculator.Proofs.Tree.Postfix

/-!
# A calculator with a stack of values

A text in postfix order can be computed in one pass, without a tree: numbers put their
value on a stack, and operators replace the values they take by their result
(`Evaluator.press`). This comes to the same as computing the trees of the text, and the
failure that is reported is the one at the first token that fails
(`Evaluator.evaluateAll_of_parsePostfix`), whatever values and faults the evaluator has. The
trees on the stack of the reader stand for the values on the stack of the calculator
(`Evaluator.values`), and every token keeps them in step.
-/

namespace Calculator

/-- Why a calculator stops at a token: it cannot take the token, or the token has no
value. -/
inductive Stop (ε : Type := Fault)
  | unreadable (problem : ParseProblem)
  | failed (failure : Failure ε)
deriving DecidableEq

/-- A problem that is reported at the place of a token, with its text. -/
def Failure.Blames {ε : Type} (failure : Failure ε) (token : Token) : Prop :=
  ∀ problem, failure = .problem problem →
    problem.report.position = token.position ∧ problem.report.lexeme = some token.lexeme

namespace Evaluator

variable {V ε : Type}

/-- Puts a result on a stack. -/
def push (stack : List V) : Except (Failure ε) V → Except (Stop ε) (List V)
  | .ok value => .ok (value :: stack)
  | .error failure => .error (.failed failure)

theorem error_of_push {stack : List V} {result : Except (Failure ε) V} {failure : Failure ε}
    (failed : push stack result = .error (.failed failure)) : result = .error failure := by
  cases result with
  | ok value => cases failed
  | error other => exact congrArg Except.error (Stop.failed.inj (Except.error.inj failed))

theorem blames_of_mapError {token : Token} {result : Except ε V} {failure : Failure ε}
    {report : ε → Failure ε} (faithful : ∀ fault, (report fault).Blames token)
    (failed : result.mapError report = .error failure) : failure.Blames token := by
  obtain ⟨fault, -, rfl⟩ := exists_of_mapError failed
  exact faithful fault

variable [FaultLike ε]

/-- Calls the operation of a token, its own one if there is one, and otherwise the one
for all others. -/
def call (evaluator : Evaluator V ε) (token : Token) (operands : List V) :
    Except (Failure ε) V :=
  match evaluator.operations.lookup token.lexeme, evaluator.fallback with
  | some operation, _ => (operation operands).mapError (blame token)
  | none, some fallback => (fallback token.lexeme operands).mapError (blame token)
  | none, none => .error (.problem (.unknownFunction token))

theorem blames_blame (token : Token) (fault : ε) : (blame token fault).Blames token := by
  unfold blame
  rintro problem same
  cases cause : FaultLike.cause fault <;> rw [cause] at same <;> cases same <;> exact ⟨rfl, rfl⟩

theorem blames_blameLiteral (token : Token) (fault : ε) :
    (blameLiteral token fault).Blames token := by
  unfold blameLiteral
  rintro problem same
  cases cause : FaultLike.cause fault <;> rw [cause] at same <;> cases same
  exact ⟨rfl, rfl⟩

theorem blames_of_call {evaluator : Evaluator V ε} {token : Token} {operands : List V}
    {failure : Failure ε}
    (failed : evaluator.call token operands = .error failure) : failure.Blames token := by
  unfold call at failed
  split at failed
  · exact blames_of_mapError (blames_blame token) failed
  · exact blames_of_mapError (blames_blame token) failed
  · rintro problem rfl
    cases failed
    exact ⟨rfl, rfl⟩

variable [ValueLike V]

/-- What an operation receives for one value: a list of arguments is taken apart. -/
def argumentsOf (value : V) : List V :=
  match ValueLike.arguments? value with
  | some items => items
  | none => [value]

/-- One token on a stack of values, the newest value first. -/
def press (evaluator : Evaluator V ε) (stack : List V) (token : Token) :
    Except (Stop ε) (List V) :=
  match token.kind with
  | .bracket => .error (.unreadable (.misplaced token .bracketInPostfix))
  | .number => push stack (evaluator.leafValue token)
  | .operator | .identifier =>
    if Operator.isInfixed token.lexeme then
      match stack with
      | right :: left :: rest => push rest (evaluator.call token.infixed [left, right])
      | _ => .error (.unreadable (.missingOperand token .left))
    else
      match stack with
      | operand :: rest => push rest (evaluator.call token.overOne (argumentsOf operand))
      | [] => .error (.unreadable (.missingOperand token .left))

/-- The stack after several tokens. -/
def pressAll (evaluator : Evaluator V ε) (tokens : List Token) (stack : List V) :
    Except (Stop ε) (List V) := tokens.foldlM evaluator.press stack

/-- The values that tokens in postfix order leave on the stack, in order. -/
def calculate (evaluator : Evaluator V ε) (tokens : List Token) : Except (Stop ε) (List V) :=
  (evaluator.pressAll tokens []).map List.reverse

variable {evaluator : Evaluator V ε}

theorem pressAll_cons (token : Token) (tokens : List Token) (stack : List V) :
    evaluator.pressAll (token :: tokens) stack =
      (evaluator.press stack token).bind (evaluator.pressAll tokens) := rfl

theorem spread_one (operand : V) : ValueLike.spread [operand] = argumentsOf operand := by
  rw [ValueLike.spread, argumentsOf]
  cases ValueLike.arguments? operand <;> rfl

theorem apply_one_eq_call (token : Token) (operand : V) :
    evaluator.apply token [operand] = evaluator.call token (argumentsOf operand) := by
  unfold apply call operation?
  rw [spread_one]
  cases evaluator.operations.lookup token.lexeme <;> cases evaluator.fallback <;> rfl

theorem apply_two_eq_call (token : Token) (left right : V) :
    evaluator.apply token [left, right] = evaluator.call token [left, right] := by
  unfold apply call operation?
  cases evaluator.operations.lookup token.lexeme <;> cases evaluator.fallback <;> rfl

/-- The values of two operands are handed over in their order. -/
theorem evaluate_binary {operator : Token} {operation : Operation V ε} {left right : Tree}
    {x y : V} (known : evaluator.operation? operator.lexeme = some operation)
    (first : evaluator.evaluate left = .ok x) (second : evaluator.evaluate right = .ok y) :
    evaluator.evaluate (.binary operator left right) =
      (operation [x, y]).mapError (blame operator) := by
  rw [evaluate, first, second]
  change evaluator.apply operator [x, y] = _
  rw [apply, known]
  rfl

theorem press_number {token : Token} (number : token.kind = .number) (stack : List V) :
    evaluator.press stack token = push stack (evaluator.leafValue token) := by
  unfold press
  rw [number]

theorem press_between {token : Token} (operates : Tree.Operates token)
    (between : Operator.isInfixed token.lexeme = true) (left right : V)
    (stack : List V) :
    evaluator.press (right :: left :: stack) token =
      push stack (evaluator.call token.infixed [left, right]) := by
  unfold press
  rcases operates with kind | kind <;> simp only [kind, between, ↓reduceIte]

theorem press_one {token : Token} (operates : Tree.Operates token)
    (single : Operator.isInfixed token.lexeme = false) (operand : V)
    (stack : List V) :
    evaluator.press (operand :: stack) token =
      push stack (evaluator.call token.overOne (argumentsOf operand)) := by
  unfold press
  rcases operates with kind | kind <;> simp only [kind, single, Bool.false_eq_true, ↓reduceIte]

/-- The values of the trees on a stack, where the oldest tree is computed first. -/
def values (evaluator : Evaluator V ε) : List Tree → Except (Failure ε) (List V)
  | [] => .ok []
  | tree :: stack =>
    (values evaluator stack).bind fun values =>
      (evaluator.evaluate tree).map fun value => value :: values

theorem evaluateAll_reverse (stack : List Tree) :
    evaluator.evaluateAll stack.reverse = (evaluator.values stack).map List.reverse := by
  unfold evaluateAll
  induction stack with
  | nil => rfl
  | cons tree stack ih =>
      rw [List.reverse_cons, List.mapM_append, ih, values]
      rcases evaluator.values stack with failure | values
      · rfl
      · simp only [Except.map, Except.bind, bind, pure, Except.pure, List.mapM_cons, List.mapM_nil]
        rcases evaluator.evaluate tree with failure | value
        · rfl
        · simp

/-- The stack of values that a stack of trees stands for. -/
def stackOf (evaluator : Evaluator V ε) (stack : List Tree) : Except (Stop ε) (List V) :=
  (evaluator.values stack).mapError .failed

theorem stackOf_cons (tree : Tree) (stack : List Tree) :
    evaluator.stackOf (tree :: stack) =
      (evaluator.stackOf stack).bind fun values => push values (evaluator.evaluate tree) := by
  unfold stackOf
  rw [values]
  rcases evaluator.values stack with failure | values
  · rfl
  · simp only [Except.bind, Except.mapError]
    rcases evaluator.evaluate tree with failure | value <;> rfl

/-- One token keeps the two stacks in step. -/
theorem stackOf_of_shift {stack after : List Tree} {token : Token}
    (shifted : Tree.shift stack token = .ok after) :
    evaluator.stackOf after =
      (evaluator.stackOf stack).bind fun values => evaluator.press values token := by
  rcases Tree.cases_of_shift shifted with ⟨number, rfl⟩ | operator | operator
  · simp only [stackOf_cons, press_number number]
    rfl
  · obtain ⟨operates, between, left, right, rest, rfl, rfl⟩ := operator
    simp only [stackOf_cons]
    rcases evaluator.stackOf rest with stop | values
    · rfl
    simp only [Except.bind, evaluate, bind]
    rcases evaluator.evaluate left with failure | first
    · rfl
    rcases evaluator.evaluate right with failure | second
    · rfl
    exact (congrArg (push values) (apply_two_eq_call _ _ _)).trans
      (press_between operates between first second values).symm
  · obtain ⟨operates, single, operand, rest, rfl, rfl⟩ := operator
    simp only [stackOf_cons]
    rcases evaluator.stackOf rest with stop | values
    · rfl
    simp only [Except.bind, evaluate, bind]
    rcases evaluator.evaluate operand with failure | value
    · rfl
    exact (congrArg (push values) (apply_one_eq_call _ _)).trans
      (press_one operates single value values).symm

/-- Several tokens keep the two stacks in step. -/
theorem stackOf_of_run {tokens : List Token} {stack after : List Tree}
    (ran : Tree.run tokens stack = .ok after) :
    evaluator.stackOf after = (evaluator.stackOf stack).bind (evaluator.pressAll tokens) := by
  induction tokens generalizing stack with
  | nil =>
      obtain rfl := Except.ok.inj ran
      rcases evaluator.stackOf stack with stop | values <;> rfl
  | cons token tokens ih =>
      rw [Tree.run_cons] at ran
      obtain ⟨middle, shifted, ran⟩ := exists_of_bind ran
      rw [ih ran, stackOf_of_shift shifted]
      rcases evaluator.stackOf stack with stop | values <;> rfl

/-- A calculator that stops does so at the first token that it cannot press. -/
theorem exists_first_of_pressAll {tokens : List Token} {stack : List V} {stop : Stop ε}
    (stopped : evaluator.pressAll tokens stack = .error stop) :
    ∃ before token after values, tokens = before ++ token :: after ∧
      evaluator.pressAll before stack = .ok values ∧
        evaluator.press values token = .error stop := by
  induction tokens generalizing stack with
  | nil => cases stopped
  | cons token tokens ih =>
      rw [pressAll_cons] at stopped
      rcases error_or_exists_of_bind stopped with here | ⟨values, pressed, later⟩
      · exact ⟨[], token, tokens, stack, rfl, rfl, here⟩
      · obtain ⟨before, next, after, others, rfl, done, failed⟩ := ih later
        refine ⟨token :: before, next, after, others, rfl, ?_, failed⟩
        rw [pressAll_cons, pressed]
        exact done

theorem blames_of_leafValue {token : Token} {failure : Failure ε}
    (failed : evaluator.leafValue token = .error failure) : failure.Blames token := by
  unfold leafValue at failed
  split at failed
  · split at failed
    · cases failed
    · rintro problem rfl
      cases failed
      exact ⟨rfl, rfl⟩
  · exact blames_of_mapError (blames_blameLiteral token) failed

/-- A token that fails is the one that the problem is reported at. -/
theorem blames_of_press {token : Token} {stack : List V} {failure : Failure ε}
    (failed : evaluator.press stack token = .error (.failed failure)) :
    failure.Blames token := by
  unfold press at failed
  cases kind : token.kind with
  | bracket =>
      rw [kind] at failed
      cases failed
  | number =>
      rw [kind] at failed
      exact blames_of_leafValue (error_of_push failed)
  | operator | identifier =>
      rw [kind] at failed
      simp only at failed
      split at failed
      · split at failed
        · have blamed : failure.Blames token.infixed := blames_of_call (error_of_push failed)
          exact blamed
        · cases failed
      · split at failed
        · have blamed : failure.Blames token.overOne := blames_of_call (error_of_push failed)
          exact blamed
        · cases failed

/-- **Trees and the calculator.** Computing the trees of a text in postfix order comes to
the same as pressing its tokens one after the other: the values are those on the stack,
and a failure is that of the first token that fails, which it names. -/
theorem evaluateAll_of_parsePostfix (evaluator : Evaluator V ε) {config : Config} {source : String}
    {trees : List Tree} (read : parsePostfix config source = .ok trees) :
    ∃ tokens, Token.ofSource config source = .ok tokens ∧
      evaluator.calculate tokens = (evaluator.evaluateAll trees).mapError .failed ∧
      ∀ failure, evaluator.evaluateAll trees = .error failure →
        ∃ before token after values, tokens = before ++ token :: after ∧
          evaluator.pressAll before [] = .ok values ∧
          evaluator.press values token = .error (.failed failure) ∧ failure.Blames token := by
  obtain ⟨tokens, scanned, read⟩ := exists_of_bind read
  rw [Tree.ofPostfix_eq_run] at read
  obtain ⟨stack, ran, rfl⟩ := exists_of_map read
  have inStep : evaluator.pressAll tokens [] = evaluator.stackOf stack :=
    (stackOf_of_run ran).symm
  rw [evaluateAll_reverse]
  refine ⟨tokens, scanned, ?_, fun failure failed => ?_⟩
  · rw [calculate, inStep, stackOf]
    rcases evaluator.values stack with failure | values <;> rfl
  · have stopped : evaluator.pressAll tokens [] = .error (.failed failure) := by
      rw [inStep, stackOf, error_of_map failed]
      rfl
    obtain ⟨before, token, after, values, split, done, failed⟩ := exists_first_of_pressAll stopped
    exact ⟨before, token, after, values, split, done, failed, blames_of_press failed⟩

/-- In `6 4 , gcd 1 0 / 2 !` the arguments of `gcd` are taken apart, and the quotient is
the first token that fails. With a rule that takes the reciprocals of literals it is the `0`,
and the division by zero is no problem of the expression there but a breakdown. -/
theorem evaluateAll_of_parsePostfix_gcd_and_quotient :
    let number (spelling : String) (n : Int) (position : Int) : Tree :=
      .leaf ⟨.number, spelling, some (.number (.int n)), position, none, false⟩
    let quotient : Token := ⟨.operator, "/", none, 14, some .infixed, false⟩
    let divisor : Tree := .unary ⟨.operator, "gcd", none, 6, some .prefixed, false⟩
      (.binary ⟨.operator, ",", none, 4, some .infixed, false⟩ (number "6" 6 0) (number "4" 4 2))
    let trees : List Tree := [divisor, .binary quotient (number "1" 1 10) (number "0" 0 12),
      .unary ⟨.operator, "!", none, 18, some .suffixed, false⟩ (number "2" 2 16)]
    let reciprocal : Evaluator := { integer with literal := IntegerOperation.divide (.int 1) }
    parsePostfix .standard "6 4 , gcd 1 0 / 2 !" = .ok trees ∧
      integer.evaluate divisor = .ok (.int 2) ∧
      ∃ tokens, Token.ofSource .standard "6 4 , gcd 1 0 / 2 !" = .ok tokens ∧
        integer.calculate tokens = .error (.failed (.problem (.divisionByZero quotient))) ∧
        reciprocal.calculate tokens = .error (.failed (.breakdown .divisionByZero)) := by
  intro number quotient divisor trees reciprocal
  have read : parsePostfix .standard "6 4 , gcd 1 0 / 2 !" = .ok trees := by cbv
  have failed : integer.evaluateAll trees = .error (.problem (.divisionByZero quotient)) := by cbv
  have broken : reciprocal.evaluateAll trees = .error (.breakdown .divisionByZero) := by cbv
  have value : integer.evaluate divisor = .ok (.int 2) := by cbv
  obtain ⟨tokens, scanned, same, -⟩ := evaluateAll_of_parsePostfix integer read
  obtain ⟨others, again, alsoSame, -⟩ := evaluateAll_of_parsePostfix reciprocal read
  obtain rfl : others = tokens := Except.ok.inj (again.symm.trans scanned)
  rw [failed] at same
  rw [broken] at alsoSame
  exact ⟨read, value, others, scanned, same, alsoSame⟩

end Evaluator

end Calculator
