import Calculator.Proofs.Expression.Moving
import Calculator.Proofs.Result

/-!
# What an evaluator calls

While a tree is computed, leaves get their values and operations are called, one after the
other (`Evaluator.observe`). A chain of commas computes its operands from left to right and
stops at the first failure, like a list of trees does (`Evaluator.observe_commas`); the
operation that takes the chain as its operand receives the values of the operands and is
called once, at the end (`Evaluator.evaluate_placed`), or not at all
(`Evaluator.evaluate_placed_error`). A fault that is not reported as a problem passes all
tokens above the one it arises at as it is (`Evaluator.breaks_last_of_observe`).
-/

namespace Calculator

/-- What happens while a tree is computed. -/
inductive Event (V : Type := Value)
  | leaf (token : Token)
  | call (operator : Token) (operands : List V)

namespace Event

variable {V : Type}

def isComma : Event V → Bool
  | leaf _ => false
  | call operator _ => operator.lexeme == ","

/-- The same event, further to the right. -/
def moved (offset : Nat) : Event V → Event V
  | leaf token => leaf (token.moved offset)
  | call operator operands => call (operator.moved offset) operands

/-- Whether an event is a call of the operator, at its place. -/
def isCallOf (operator : Token) : Event V → Bool
  | leaf _ => false
  | call other _ => other = operator

/-- All events but the calls of commas. -/
def others (events : List (Event V)) : List (Event V) := events.filter fun event => !event.isComma

@[simp] theorem others_append (before after : List (Event V)) :
    others (before ++ after) = others before ++ others after := List.filter_append ..

/-- No call of another operator is left out. -/
theorem filter_others {operator : Token} (named : operator.lexeme ≠ ",") (events : List (Event V)) :
    (others events).filter (isCallOf operator) = events.filter (isCallOf operator) := by
  rw [others, List.filter_filter]
  refine List.filter_congr fun event _ => ?_
  cases event with
  | leaf token => rfl
  | call other operands =>
      by_cases same : other = operator <;> simp [isCallOf, isComma, same, named]

/-- What happens further to the right calls no operator at the beginning. -/
theorem isCallOf_moved {operator : Token} (leading : operator.position = 0) {offset : Nat}
    (positive : 0 < offset) (event : Event V) : (event.moved offset).isCallOf operator = false := by
  cases event with
  | leaf token => rfl
  | call other operands =>
      refine decide_eq_false fun same => ?_
      have place := congrArg Token.position same
      rw [leading] at place
      simp only [Token.moved, Token.isSynthetic, decide_eq_true_eq] at place
      split at place <;> omega

end Event

namespace ValueLike

variable {V : Type} [ValueLike V]

/-- The value of a chain of commas. -/
def gathered : List V → V
  | [] => arguments []
  | first :: rest => rest.foldl comma first

theorem arguments?_eq_none {value : V} (single : ¬ IsArguments value) :
    arguments? value = none := Option.eq_none_iff_forall_ne_some.mpr fun _ same => single ⟨_, same⟩

theorem comma_arguments (items : List V) (value : V) :
    comma (arguments items) value = arguments (items ++ [value]) := by
  rw [comma, arguments?_arguments]

theorem foldl_comma (rest items : List V) :
    rest.foldl comma (arguments items) = arguments (items ++ rest) := by
  induction rest generalizing items with
  | nil => simp
  | cons value rest ih => simp [comma_arguments, ih]

/-- A chain of commas hands over its operands, as long as the first one is no list of
arguments itself. -/
theorem spread_gathered {first : V} (single : ¬ IsArguments first) (rest : List V) :
    spread [gathered (first :: rest)] = first :: rest := by
  cases rest with
  | nil => rw [gathered, List.foldl_nil, spread, arguments?_eq_none single, Option.getD_none]
  | cons second rest =>
      have started : comma first second = arguments [first, second] := by
        rw [comma, arguments?_eq_none single]
      rw [gathered, List.foldl_cons, started, foldl_comma, spread, arguments?_arguments]
      rfl

end ValueLike

/-- A number is no list of arguments. -/
theorem Value.not_isArguments {value : Value} {number : Scalar}
    (known : value.scalar? = some number) : ¬ ValueLike.IsArguments value := by
  rintro ⟨items, same⟩
  cases value with
  | arguments _ => cases known
  | _ => cases same

namespace Evaluator

variable {V ε : Type} [ValueLike V]

/-- The call of an operator, if there is an operation for it. -/
def calls (evaluator : Evaluator V ε) (operator : Token) (operands : List V) :
    List (Event V) :=
  if (evaluator.operation? operator.lexeme).isSome then
    [.call operator (ValueLike.spread operands)]
  else []

theorem calls_moved (evaluator : Evaluator V ε) (offset : Nat) (operator : Token)
    (operands : List V) :
    evaluator.calls (operator.moved offset) operands =
      (evaluator.calls operator operands).map (Event.moved offset) := by
  unfold calls
  rw [show (operator.moved offset).lexeme = operator.lexeme from rfl]
  split <;> rfl

variable [FaultLike ε]

/-- What happens while a tree is computed, and what comes of it. -/
def observe (evaluator : Evaluator V ε) : Tree → List (Event V) × Except (Failure ε) V
  | .leaf token => ([.leaf token], evaluator.leafValue token)
  | .unary operator operand =>
    match evaluator.observe operand with
    | (events, .error failure) => (events, .error failure)
    | (events, .ok value) =>
      (events ++ evaluator.calls operator [value], evaluator.apply operator [value])
  | .binary operator left right =>
    match evaluator.observe left with
    | (before, .error failure) => (before, .error failure)
    | (before, .ok first) =>
      match evaluator.observe right with
      | (after, .error failure) => (before ++ after, .error failure)
      | (after, .ok second) =>
        (before ++ after ++ evaluator.calls operator [first, second],
          evaluator.apply operator [first, second])

/-- The same for several trees, from left to right up to the first failure. -/
def observeAll (evaluator : Evaluator V ε) :
    List Tree → List (Event V) × Except (Failure ε) (List V)
  | [] => ([], .ok [])
  | tree :: rest =>
    match evaluator.observe tree with
    | (events, .error failure) => (events, .error failure)
    | (events, .ok value) =>
      (events ++ (evaluator.observeAll rest).1, (evaluator.observeAll rest).2.map (value :: ·))

variable {evaluator : Evaluator V ε}

/-- Watching does not change the result. -/
theorem observe_snd (tree : Tree) : (evaluator.observe tree).2 = evaluator.evaluate tree := by
  induction tree with
  | leaf token => rfl
  | unary operator operand ih =>
      rw [observe, evaluate, ← ih]
      rcases evaluator.observe operand with ⟨events, failure | value⟩ <;> rfl
  | binary operator left right leftIh rightIh =>
      rw [observe, evaluate, ← leftIh, ← rightIh]
      rcases evaluator.observe left with ⟨before, failure | first⟩
      · rfl
      rcases evaluator.observe right with ⟨after, failure | second⟩ <;> rfl

/-- A tree that stands further to the right does the same there. -/
theorem observe_moved (offset : Nat) (tree : Tree) :
    evaluator.observe (tree.moved offset) =
      ((evaluator.observe tree).1.map (Event.moved offset),
        (evaluator.observe tree).2.mapError (Failure.moved offset)) := by
  induction tree with
  | leaf token => exact Prod.ext rfl (evaluator.leafValue_moved offset token)
  | unary operator operand ih =>
      rw [Tree.moved, observe, observe, ih]
      rcases evaluator.observe operand with ⟨events, failure | value⟩
      · rfl
      · simp only [Except.mapError, calls_moved, apply_moved, List.map_append]
  | binary operator left right leftIh rightIh =>
      rw [Tree.moved, observe, observe, leftIh, rightIh]
      rcases evaluator.observe left with ⟨before, failure | first⟩
      · rfl
      rcases evaluator.observe right with ⟨after, failure | second⟩
      · simp only [Except.mapError, List.map_append]
      · simp only [Except.mapError, calls_moved, apply_moved, List.map_append]

/-- An event in which a fault arises that is not reported as a problem: a literal for which the
rule has this fault, or a call whose operation has it. -/
def Breaks (evaluator : Evaluator V ε) (fault : ε) : Event V → Prop
  | .leaf token => token.isConstant = false ∧
      evaluator.literal (ValueLike.ofLiteral token.value) = .error fault ∧
      ∀ detail, FaultLike.cause fault ≠ .domain detail
  | .call operator operands => FaultLike.cause fault = .other ∧
      ∃ operation, evaluator.operation? operator.lexeme = some operation ∧
        operation operands = .error fault

theorem breaks_leaf {token : Token} {fault : ε}
    (failed : evaluator.leafValue token = .error (.breakdown fault)) :
    evaluator.Breaks fault (.leaf token) := by
  unfold leafValue at failed
  split at failed
  · split at failed <;> cases failed
  · rename_i literal
    obtain ⟨raised, ruled, same⟩ := exists_of_mapError failed
    unfold blameLiteral at same
    rcases cause : FaultLike.cause raised with _ | _ | _ | _ <;> rw [cause] at same <;>
      cases same
    all_goals exact ⟨Bool.eq_false_iff.mpr literal, ruled, by simp [cause]⟩

theorem breaks_call {operator : Token} {operands : List V} {fault : ε}
    (failed : evaluator.apply operator operands = .error (.breakdown fault)) :
    ∃ last, evaluator.calls operator operands = [last] ∧ evaluator.Breaks fault last := by
  unfold apply at failed
  split at failed
  · rename_i operation known
    obtain ⟨raised, ran, same⟩ := exists_of_mapError failed
    unfold blame at same
    rcases cause : FaultLike.cause raised with _ | _ | _ | _ <;> rw [cause] at same <;>
      cases same
    refine ⟨.call operator (ValueLike.spread operands), ?_, cause, operation, known, ran⟩
    rw [calls, known, Option.isSome_some, if_pos rfl]
  · cases failed

/-- A breakdown is the fault of what happens last, as it arises there. -/
theorem breaks_last_of_observe {tree : Tree} {fault : ε}
    (failed : (evaluator.observe tree).2 = .error (.breakdown fault)) :
    ∃ before last, (evaluator.observe tree).1 = before ++ [last] ∧
      evaluator.Breaks fault last := by
  induction tree with
  | leaf token => exact ⟨[], .leaf token, rfl, breaks_leaf failed⟩
  | unary operator operand ih =>
      rw [observe] at failed ⊢
      rcases observed : evaluator.observe operand with ⟨events, failure | value⟩
      · rw [observed] at failed ih
        exact ih failed
      · rw [observed] at failed
        obtain ⟨last, called, breaks⟩ := breaks_call failed
        exact ⟨events, last, congrArg (events ++ ·) called, breaks⟩
  | binary operator left right leftIh rightIh =>
      rw [observe] at failed ⊢
      rcases leftObserved : evaluator.observe left with ⟨before, failure | first⟩
      · rw [leftObserved] at failed leftIh
        exact leftIh failed
      rcases rightObserved : evaluator.observe right with ⟨after, failure | second⟩
      · rw [leftObserved, rightObserved] at failed
        rw [rightObserved] at rightIh
        obtain ⟨earlier, last, happened, breaks⟩ := rightIh failed
        exact ⟨before ++ earlier, last,
          (congrArg (before ++ ·) happened).trans (List.append_assoc ..).symm, breaks⟩
      · rw [leftObserved, rightObserved] at failed
        obtain ⟨last, called, breaks⟩ := breaks_call failed
        exact ⟨before ++ after, last, congrArg ((before ++ after) ++ ·) called, breaks⟩

theorem exists_cons_of_observeAll {tree : Tree} {rest : List Tree} {values : List V}
    (computed : (evaluator.observeAll (tree :: rest)).2 = .ok values) :
    ∃ value others, values = value :: others := by
  rw [observeAll] at computed
  rcases observed : evaluator.observe tree with ⟨events, failure | value⟩
  · rw [observed] at computed
    cases computed
  · rw [observed] at computed
    obtain ⟨others, -, rfl⟩ := exists_of_map computed
    exact ⟨value, others, rfl⟩

/-- What happens while trees are computed that stand at the given places. -/
def eventsAt (evaluator : Evaluator V ε) (placed : List (Nat × Tree)) : List (Event V) :=
  placed.flatMap fun place => (evaluator.observe place.2).1.map (Event.moved place.1)

/-- Trees further to the right call no operator at the beginning. -/
theorem filter_eventsAt {operator : Token} (leading : operator.position = 0)
    {placed : List (Nat × Tree)} (positive : ∀ place ∈ placed, 0 < place.1) :
    (evaluator.eventsAt placed).filter (Event.isCallOf operator) = [] := by
  refine List.filter_eq_nil_iff.mpr fun event member => ?_
  obtain ⟨place, inside, happened⟩ := List.mem_flatMap.mp member
  obtain ⟨original, -, rfl⟩ := List.mem_map.mp happened
  rw [Event.isCallOf_moved leading (positive place inside)]
  exact Bool.false_ne_true

theorem observe_of_evaluate {tree : Tree} {value : V}
    (computed : evaluator.evaluate tree = .ok value) (offset : Nat) :
    evaluator.observe (tree.moved offset) =
      ((evaluator.observe tree).1.map (Event.moved offset), .ok value) := by
  rw [observe_moved, observe_snd, computed]
  rfl

theorem observeAll_snd {trees : List Tree} {values : List V}
    (computed : List.Forall₂ (fun tree value => evaluator.evaluate tree = .ok value)
      trees values) : (evaluator.observeAll trees).2 = .ok values := by
  induction computed with
  | nil => rfl
  | @cons tree value trees values first rest ih =>
      rw [← observe_snd] at first
      rw [observeAll]
      rcases observed : evaluator.observe tree with ⟨events, result⟩
      rw [observed] at first
      obtain rfl : result = .ok value := first
      exact congrArg (Except.map (value :: ·)) ih

/-- Trees that all have a value are computed one after the other, wherever they stand. -/
theorem observeAll_placed {placed : List (Nat × Tree)} {values : List V}
    (computed : List.Forall₂ (fun tree value => evaluator.evaluate tree = .ok value)
      (placed.map Prod.snd) values) :
    evaluator.observeAll (placed.map fun place => place.2.moved place.1) =
      (evaluator.eventsAt placed, .ok values) := by
  induction placed generalizing values with
  | nil =>
      cases computed
      rfl
  | cons place placed ih =>
      rcases computed with _ | ⟨first, rest⟩
      rw [List.map_cons, observeAll, observe_of_evaluate first place.1, ih rest]
      rfl

/-- The first tree without a value ends the computation. -/
theorem observeAll_placed_error {before : List (Nat × Tree)} (offset : Nat) {failing : Tree}
    (after : List (Nat × Tree)) {failure : Failure ε}
    (computed : ∀ place ∈ before, ∃ value, evaluator.evaluate place.2 = .ok value)
    (failed : evaluator.evaluate failing = .error failure) :
    evaluator.observeAll
        ((before ++ (offset, failing) :: after).map fun place => place.2.moved place.1) =
      (evaluator.eventsAt (before ++ [(offset, failing)]), .error (failure.moved offset)) := by
  induction before with
  | nil =>
      have observed : (evaluator.observe failing).2 = .error failure :=
        (observe_snd failing).trans failed
      rw [List.nil_append, List.map_cons, observeAll, observe_moved, observed]
      simp [eventsAt, Except.mapError]
  | cons place before ih =>
      obtain ⟨value, first⟩ := computed place List.mem_cons_self
      rw [List.cons_append, List.map_cons, observeAll, observe_of_evaluate first place.1,
        ih fun other member => computed other (List.mem_cons_of_mem _ member)]
      rfl

variable (separates : evaluator.operations.lookup "," = some Operation.comma)

include separates in
theorem observe_comma {comma : Token} (spelled : comma.lexeme = ",") (first second : V) :
    evaluator.apply comma [first, second] = .ok (ValueLike.comma first second) ∧
      Event.others (evaluator.calls comma [first, second]) = [] := by
  have known : evaluator.operation? comma.lexeme = some Operation.comma := by
    rw [operation?, spelled, separates, Option.some_or]
  constructor
  · rw [apply, known]
    rfl
  · rw [calls, known]
    simp [Event.others, Event.isComma, spelled]

include separates in
/-- Two operands at the front may be joined by a comma. -/
theorem observeAll_comma {comma : Token} (spelled : comma.lexeme = ",") (left right : Tree)
    (rest : List Tree) :
    (evaluator.observeAll (.binary comma left right :: rest)).2.map ValueLike.gathered =
        (evaluator.observeAll (left :: right :: rest)).2.map ValueLike.gathered ∧
      Event.others (evaluator.observeAll (.binary comma left right :: rest)).1 =
        Event.others (evaluator.observeAll (left :: right :: rest)).1 := by
  simp only [observeAll, observe]
  rcases evaluator.observe left with ⟨before, failure | first⟩
  · exact ⟨rfl, rfl⟩
  rcases evaluator.observe right with ⟨after, failure | second⟩
  · exact ⟨rfl, rfl⟩
  obtain ⟨joined, silent⟩ := observe_comma separates spelled first second
  simp only [joined, silent, Event.others_append, List.nil_append, List.append_assoc, and_true]
  cases (evaluator.observeAll rest).2 <;> rfl

include separates in
/-- A chain of commas does what its operands do, one after the other. -/
theorem observe_commas (first : Tree) {steps : List (Token × Tree)}
    (commas : ∀ step ∈ steps, step.1.lexeme = ",") :
    let chain := steps.foldl (fun tree step => .binary step.1 tree step.2) first
    let operands := first :: steps.map Prod.snd
    (evaluator.observe chain).2 = (evaluator.observeAll operands).2.map ValueLike.gathered ∧
      Event.others (evaluator.observe chain).1 =
        Event.others (evaluator.observeAll operands).1 := by
  induction steps generalizing first with
  | nil =>
      simp only [List.foldl_nil, List.map_nil, observeAll]
      rcases evaluator.observe first with ⟨events, failure | value⟩
      · exact ⟨rfl, rfl⟩
      · exact ⟨rfl, by simp⟩
  | cons step steps ih =>
      obtain ⟨result, events⟩ := ih (.binary step.1 first step.2)
        fun other member => commas other (List.mem_cons_of_mem _ member)
      obtain ⟨sameResult, sameEvents⟩ := observeAll_comma separates
        (commas step List.mem_cons_self) first step.2 (steps.map Prod.snd)
      exact ⟨result.trans sameResult, events.trans sameEvents⟩

include separates in
/-- An operation over a chain of commas is called once, with the values of the operands,
after they have been computed. -/
theorem observe_call {operator : Token} {operation : Operation V ε}
    (known : evaluator.operation? operator.lexeme = some operation)
    (named : operator.lexeme ≠ ",") (first : Tree) {steps : List (Token × Tree)}
    (commas : ∀ step ∈ steps, step.1.lexeme = ",") {values : List V}
    (single : ∀ value ∈ values, ¬ ValueLike.IsArguments value)
    (computed : (evaluator.observeAll (first :: steps.map Prod.snd)).2 = .ok values) :
    let call : Tree := .unary operator
      (steps.foldl (fun tree step => .binary step.1 tree step.2) first)
    (evaluator.observe call).2 = (operation values).mapError (blame operator) ∧
      Event.others (evaluator.observe call).1 =
        Event.others (evaluator.observeAll (first :: steps.map Prod.snd)).1 ++
          [.call operator values] := by
  intro call
  obtain ⟨value, rest, rfl⟩ := exists_cons_of_observeAll computed
  have taken := ValueLike.spread_gathered (single value List.mem_cons_self) rest
  obtain ⟨result, events⟩ := observe_commas separates first commas
  rw [computed] at result
  rcases observed : evaluator.observe (steps.foldl (fun tree step => .binary step.1 tree step.2)
    first) with ⟨happened, failure | argument⟩
  · rw [observed] at result
    cases result
  · rw [observed] at result events
    obtain rfl : argument = ValueLike.gathered (value :: rest) := Except.ok.inj result
    simp only [call, observe, observed, apply, calls, known, taken, Option.isSome_some, ↓reduceIte,
      Event.others_append, ← events, true_and]
    simp [Event.others, Event.isComma, named]

include separates in
/-- The operands of a chain of commas that all have a value are handed over together. -/
theorem evaluate_chain {operator : Token} {operation : Operation V ε}
    (known : evaluator.operation? operator.lexeme = some operation)
    (named : operator.lexeme ≠ ",") {first : Tree} {steps : List (Token × Tree)}
    (commas : ∀ step ∈ steps, step.1.lexeme = ",") {values : List V}
    (single : ∀ value ∈ values, ¬ ValueLike.IsArguments value)
    (computed : List.Forall₂ (fun tree value => evaluator.evaluate tree = .ok value)
      (first :: steps.map Prod.snd) values) :
    evaluator.evaluate
        (.unary operator (steps.foldl (fun tree step => .binary step.1 tree step.2) first)) =
      (operation values).mapError (blame operator) := by
  rw [← observe_snd]
  exact (observe_call separates known named first commas single (observeAll_snd computed)).1

include separates in
/-- If an operand fails, the operation is not called. -/
theorem observe_call_error (operator : Token) (first : Tree) {steps : List (Token × Tree)}
    (commas : ∀ step ∈ steps, step.1.lexeme = ",") {failure : Failure ε}
    (failed : (evaluator.observeAll (first :: steps.map Prod.snd)).2 = .error failure) :
    let call : Tree := .unary operator
      (steps.foldl (fun tree step => .binary step.1 tree step.2) first)
    (evaluator.observe call).2 = .error failure ∧
      Event.others (evaluator.observe call).1 =
        Event.others (evaluator.observeAll (first :: steps.map Prod.snd)).1 := by
  intro call
  obtain ⟨result, events⟩ := observe_commas separates first commas
  rw [failed] at result
  rcases observed : evaluator.observe (steps.foldl (fun tree step => .binary step.1 tree step.2)
    first) with ⟨happened, _ | value⟩
  · rw [observed] at result events
    obtain rfl := Except.error.inj result
    simp only [call, observe, observed, true_and]
    exact events
  · rw [observed] at result
    cases result

section Placed

variable {operator : Token} {first : Tree} {steps : List (Token × Tree)}
  {placed : List (Nat × Tree)} (named : operator.lexeme ≠ ",") (leading : operator.position = 0)
  (commas : ∀ step ∈ steps, step.1.lexeme = ",")
  (operands : first :: steps.map Prod.snd = placed.map fun place => place.2.moved place.1)
  (positive : ∀ place ∈ placed, 0 < place.1)

include separates named leading commas operands positive

/-- An operation receives the values of the trees that stand behind it, in one call. -/
theorem evaluate_placed {operation : Operation V ε}
    (known : evaluator.operation? operator.lexeme = some operation) {values : List V}
    (single : ∀ value ∈ values, ¬ ValueLike.IsArguments value)
    (computed : List.Forall₂ (fun tree value => evaluator.evaluate tree = .ok value)
      (placed.map Prod.snd) values) :
    let call : Tree := .unary operator
      (steps.foldl (fun tree step => .binary step.1 tree step.2) first)
    evaluator.evaluate call = (operation values).mapError (blame operator) ∧
      Event.others (evaluator.observe call).1 =
        Event.others (evaluator.eventsAt placed) ++ [.call operator values] ∧
      (evaluator.observe call).1.filter (Event.isCallOf operator) = [.call operator values] := by
  intro call
  have all := observeAll_placed computed
  rw [← operands] at all
  obtain ⟨result, events⟩ := observe_call separates known named first commas single
    (congrArg Prod.snd all)
  rw [observe_snd] at result
  rw [all] at events
  refine ⟨result, events, ?_⟩
  rw [← Event.filter_others named, events, List.filter_append, Event.filter_others named,
    filter_eventsAt leading positive]
  simp [Event.isCallOf]

/-- The first of these trees that has no value ends the computation, without the call. -/
theorem evaluate_placed_error {before after : List (Nat × Tree)} {offset : Nat} {failing : Tree}
    {failure : Failure ε} (split : placed = before ++ (offset, failing) :: after)
    (computed : ∀ place ∈ before, ∃ value, evaluator.evaluate place.2 = .ok value)
    (failed : evaluator.evaluate failing = .error failure) :
    let call : Tree := .unary operator
      (steps.foldl (fun tree step => .binary step.1 tree step.2) first)
    evaluator.evaluate call = .error (failure.moved offset) ∧
      Event.others (evaluator.observe call).1 =
        Event.others (evaluator.eventsAt (before ++ [(offset, failing)])) ∧
      (evaluator.observe call).1.filter (Event.isCallOf operator) = [] := by
  intro call
  have all := observeAll_placed_error offset after computed failed
  rw [← split, ← operands] at all
  obtain ⟨result, events⟩ := observe_call_error separates operator first commas
    (congrArg Prod.snd all)
  rw [observe_snd] at result
  rw [all] at events
  have behind : ∀ place ∈ before ++ [(offset, failing)], 0 < place.1 := by
    intro place member
    refine positive place ?_
    rw [split, List.append_cons]
    exact List.mem_append_left after member
  refine ⟨result, events, ?_⟩
  rw [← Event.filter_others named, events, Event.filter_others named,
    filter_eventsAt leading behind]

end Placed

end Evaluator

end Calculator
