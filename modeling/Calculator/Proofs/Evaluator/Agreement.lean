import Calculator.Evaluator.Real
import Calculator.Parse
import Calculator.Proofs.Evaluator.Integral

/-!
# Where real arithmetic is exact

Sums, differences, products, floored quotients and remainders, signs and comparisons of integers
need no rounding. For these operators real arithmetic has operations of its own, but on integers
and truth values they come to the same as those of integer arithmetic, whatever their number
(`Evaluator.exists_agreeing_of_mem`). So a tree over integer literals in which only such operators
occur has the same outcome in both (`Evaluator.evaluate_real_and_integer`): one integer or one truth
value, or one problem at one token.
-/

namespace Calculator

/-- The operators over integers that need no rounding. The comma is not among them. -/
def exactOperators : List String :=
  ["+", "-", "*", "//", "%", "mod", "negate", "abs", "==", "!=", "<", "<=", ">", ">="]

namespace Operation

/-- Operations that do the same with integers and truth values, and with any number of them. -/
def Agree (first second : Operation) : Prop :=
  ∀ operands : List Value, (∀ operand ∈ operands, operand.IsIntegral) →
    first operands = second operands

theorem Agree.refl (operation : Operation) : Agree operation operation := fun _ _ => rfl

/-- On integers a remainder does not break down, so it does not matter that one takes it in
several steps. -/
theorem agree_mod : Agree (binarySteps Value.mod) (binary Value.mod) := by
  intro operands integral
  match operands with
  | [x, y] =>
      obtain ⟨m, left⟩ := (integral x List.mem_cons_self).exists_scalar
      obtain ⟨n, right⟩ := (integral y (List.mem_cons_of_mem x List.mem_cons_self)).exists_scalar
      change inside (x.mod y) = x.mod y
      rw [Value.mod_of_int left right]
      split <;> rfl
  | [] | [_] | _ :: _ :: _ :: _ => rfl

end Operation

namespace Tree

/-- Leaves are integer literals, and operators are exact ones or commas. -/
def IsExact : Tree → Prop
  | leaf token => token.isConstant = false ∧ ∃ n, token.value = some (.number (.int n))
  | unary operator operand => operator.lexeme ∈ exactOperators ∧ operand.IsExact
  | binary operator left right =>
    (operator.lexeme = "," ∨ operator.lexeme ∈ exactOperators) ∧ left.IsExact ∧ right.IsExact

theorem ne_comma_of_mem_exactOperators {name : String} (exact : name ∈ exactOperators) :
    name ≠ "," := by
  rintro rfl
  revert exact
  decide

theorem IsExact.isArithmetic {tree : Tree} (exact : tree.IsExact) : tree.IsArithmetic := by
  induction tree with
  | leaf token =>
      obtain ⟨-, n, value⟩ := exact
      exact .inr ⟨.int n, value⟩
  | unary operator operand ih => exact ⟨ne_comma_of_mem_exactOperators exact.1, ih exact.2⟩
  | binary operator left right leftIh rightIh => exact ⟨leftIh exact.2.1, rightIh exact.2.2⟩

end Tree

namespace Evaluator

/-- Both evaluators know the exact operators, and their operations agree. -/
theorem exists_agreeing_of_mem {name : String} (exact : name ∈ exactOperators) :
    ∃ first second, real.operation? name = some first ∧ integer.operation? name = some second ∧
      first.Agree second := by
  have same {name : String} {operation : Operation}
      (first : real.operation? name = some operation)
      (second : integer.operation? name = some operation) :
      ∃ first second, real.operation? name = some first ∧
        integer.operation? name = some second ∧ first.Agree second :=
    ⟨operation, operation, first, second, .refl operation⟩
  revert name
  simp only [exactOperators, List.forall_mem_cons]
  exact ⟨same rfl rfl, same rfl rfl, same rfl rfl, same rfl rfl,
    ⟨_, _, rfl, rfl, Operation.agree_mod⟩, ⟨_, _, rfl, rfl, Operation.agree_mod⟩, same rfl rfl,
    same rfl rfl, same rfl rfl, same rfl rfl, same rfl rfl, same rfl rfl, same rfl rfl,
    same rfl rfl, List.forall_mem_nil _⟩

theorem apply_real_eq {token : Token} (exact : token.lexeme ∈ exactOperators)
    {operands : List Value} (integral : ∀ operand ∈ ValueLike.spread operands, operand.IsIntegral) :
    real.apply token operands = integer.apply token operands := by
  obtain ⟨first, second, ofReal, ofInteger, agree⟩ := exists_agreeing_of_mem exact
  unfold apply
  rw [ofReal, ofInteger]
  exact congrArg (Except.mapError (blame token)) (agree _ integral)

theorem apply_real_comma {token : Token} (comma : token.lexeme = ",") (left right : Value) :
    real.apply token [left, right] = integer.apply token [left, right] :=
  (observe_comma rfl comma left right).1.trans (observe_comma rfl comma left right).1.symm

theorem leafValue_real_eq {token : Token}
    (exact : token.isConstant = false ∧ ∃ n, token.value = some (.number (.int n))) :
    real.leafValue token = integer.leafValue token := by
  obtain ⟨literal, n, value⟩ := exact
  rw [leafValue, leafValue, literal, value]
  rfl

/-- The evaluators agree on every part of an exact tree, a chain of arguments included. What the
operands come to is known from integer arithmetic. -/
theorem evaluate_real_eq {tree : Tree} {chained : Bool} (exact : tree.IsExact)
    (joins : tree.JoinsArguments chained) : real.evaluate tree = integer.evaluate tree := by
  induction tree generalizing chained with
  | leaf token => exact leafValue_real_eq exact
  | unary operator operand ih =>
      have delivers := Tree.delivers_evaluate exact.2.isArithmetic joins
      rw [evaluate, evaluate, ih exact.2 joins]
      rcases computed : integer.evaluate operand with failure | value
      · rfl
      · rw [computed] at delivers
        have fits : ∀ item ∈ argumentsOf value, item.IsIntegral := delivers
        exact apply_real_eq exact.1 (by rwa [spread_one])
  | binary operator left right leftIh rightIh =>
      obtain ⟨known, leftExact, rightExact⟩ := exact
      have leftDelivers := Tree.delivers_evaluate leftExact.isArithmetic joins.2.1
      have rightDelivers := Tree.delivers_evaluate rightExact.isArithmetic joins.2.2
      rw [evaluate, evaluate, leftIh leftExact joins.2.1, rightIh rightExact joins.2.2]
      rcases leftComputed : integer.evaluate left with failure | first
      · rfl
      rcases rightComputed : integer.evaluate right with failure | second
      · rfl
      rcases known with comma | exact
      · exact apply_real_comma comma first second
      · rw [leftComputed, decide_eq_false (Tree.ne_comma_of_mem_exactOperators exact)]
          at leftDelivers
        rw [rightComputed] at rightDelivers
        have integral : ∀ item ∈ [first, second], item.IsIntegral :=
          List.forall_mem_cons.mpr ⟨leftDelivers, List.forall_mem_singleton.mpr rightDelivers⟩
        exact apply_real_eq exact integral

/-- **Exact real arithmetic.** A tree over integer literals, with exact operators and with commas
that only join arguments, has one outcome in real and in integer arithmetic: the same integer, the
same truth value, or the same problem at the same token. -/
theorem evaluate_real_and_integer {tree : Tree} (exact : tree.IsExact)
    (joins : tree.JoinsArguments false) :
    (∃ n, real.evaluate tree = .ok (.int n) ∧ integer.evaluate tree = .ok (.int n)) ∨
      (∃ b, real.evaluate tree = .ok (.bool b) ∧ integer.evaluate tree = .ok (.bool b)) ∨
      ∃ problem, real.evaluate tree = .error (.problem problem) ∧
        integer.evaluate tree = .error (.problem problem) := by
  have delivers := Tree.delivers_evaluate exact.isArithmetic joins
  rw [evaluate_real_eq exact joins]
  rcases computed : integer.evaluate tree with failure | value
  · rw [computed] at delivers
    obtain ⟨problem, rfl⟩ := delivers
    exact .inr (.inr ⟨problem, rfl, rfl⟩)
  · rw [computed] at delivers
    cases delivers with
    | int n => exact .inl ⟨n, rfl, rfl⟩
    | bool b => exact .inr (.inl ⟨b, rfl, rfl⟩)

/-- In `mod(-7,4)*(2<3)` a truth value is multiplied. In `abs(6,7)%0` both evaluators find fault
with the count of the arguments before they come to the division. -/
theorem evaluate_real_and_integer_product_and_count :
    let number (spelling : String) (n : Int) (position : Int) : Tree :=
      .leaf ⟨.number, spelling, some (.number (.int n)), position, none, false⟩
    let between (name : String) (position : Int) : Token :=
      ⟨.operator, name, none, position, some .infixed, false⟩
    let before (name : String) (position : Int) : Token :=
      ⟨.operator, name, none, position, some .prefixed, false⟩
    let product : Tree := .binary (between "*" 9)
      (.unary (before "mod" 0) (.binary (between "," 6)
        (.unary (before "negate" 4) (number "7" 7 5)) (number "4" 4 7)))
      (.binary (between "<" 12) (number "2" 2 11) (number "3" 3 13))
    let remainder : Tree := .binary (between "%" 8)
      (.unary (before "abs" 0) (.binary (between "," 5) (number "6" 6 4) (number "7" 7 6)))
      (number "0" 0 9)
    (parse .standard "mod(-7,4)*(2<3)" = .ok (some product) ∧ product.IsExact ∧
      product.JoinsArguments false ∧ real.evaluate product = .ok (.int 1)) ∧
    parse .standard "abs(6,7)%0" = .ok (some remainder) ∧ remainder.IsExact ∧
      remainder.JoinsArguments false ∧
      real.evaluate remainder = .error (.problem (.domainError (before "abs" 0) none)) := by
  intro number between before product remainder
  have productRead : parse .standard "mod(-7,4)*(2<3)" = .ok (some product) := by cbv
  have remainderRead : parse .standard "abs(6,7)%0" = .ok (some remainder) := by cbv
  have exact : product.IsExact ∧ remainder.IsExact := by
    simp [product, remainder, number, between, before, Tree.IsExact, exactOperators]
  have joined : product.JoinsArguments false ∧ remainder.JoinsArguments false := by decide
  have value : integer.evaluate product = .ok (.int 1) := by cbv
  have failed : integer.evaluate remainder =
      .error (.problem (.domainError (before "abs" 0) none)) := by cbv
  refine ⟨⟨productRead, exact.1, joined.1, ?_⟩, remainderRead, exact.2, joined.2, ?_⟩
  · rcases evaluate_real_and_integer exact.1 joined.1 with
      ⟨n, ofReal, ofInteger⟩ | ⟨b, -, ofInteger⟩ | ⟨problem, -, ofInteger⟩
    · exact ofReal.trans (ofInteger.symm.trans value)
    · cases value.symm.trans ofInteger
    · cases value.symm.trans ofInteger
  · rcases evaluate_real_and_integer exact.2 joined.2 with
      ⟨n, -, ofInteger⟩ | ⟨b, -, ofInteger⟩ | ⟨problem, ofReal, ofInteger⟩
    · cases failed.symm.trans ofInteger
    · cases failed.symm.trans ofInteger
    · exact ofReal.trans (ofInteger.symm.trans failed)

end Evaluator

end Calculator
