import Calculator.Proofs.Evaluator.Calls
import Calculator.Proofs.Evaluator.ValueStack

/-!
# Integers stay integers

The integer evaluator computes integers and truth values, and lists of them where a comma
joins arguments. Given integers and truth values, every operation but the comma yields an
integer or a truth value or reports a fault, however many operands it gets
(`IntegerOperation.isExact_of_mem_table`); it never breaks down. So a tree in which commas
only join arguments has such a value or a problem (`Tree.delivers_evaluate`).
-/

namespace Calculator

universe u v

/-- What a computation delivers: a result of one kind or a failure of another. -/
def Delivers {ε : Type u} {α : Type v} (result : α → Prop) (failure : ε → Prop) :
    Except ε α → Prop
  | .ok value => result value
  | .error problem => failure problem

section Delivers

variable {ε ε' : Type u} {α β : Type v} {failure : ε → Prop}

theorem Delivers.imp {result other : α → Prop} {computed : Except ε α}
    (delivers : Delivers result failure computed)
    (weaker : ∀ value, result value → other value) : Delivers other failure computed := by
  cases computed with
  | error problem => exact delivers
  | ok value => exact weaker value delivers

theorem Delivers.bind {result : α → Prop} {other : β → Prop} {first : Except ε α}
    {next : α → Except ε β} (delivers : Delivers result failure first)
    (later : ∀ value, result value → Delivers other failure (next value)) :
    Delivers other failure (first >>= next) := by
  cases first with
  | error problem => exact delivers
  | ok value => exact later value delivers

theorem Delivers.mapError {result : α → Prop} {other : ε' → Prop} {report : ε → ε'}
    {computed : Except ε α} (delivers : Delivers result failure computed)
    (reported : ∀ problem, failure problem → other (report problem)) :
    Delivers result other (computed.mapError report) := by
  cases computed with
  | error problem => exact reported problem delivers
  | ok value => exact delivers

end Delivers

namespace Value

/-- An integer or a truth value. -/
inductive IsIntegral : Value → Prop
  | int (n : Int) : IsIntegral (int n)
  | bool (b : Bool) : IsIntegral (bool b)

theorem IsIntegral.exists_scalar {value : Value} (integral : value.IsIntegral) :
    ∃ n, value.scalar? = some (.int n) := by
  cases integral with
  | int n => exact ⟨n, rfl⟩
  | bool b => exact ⟨_, rfl⟩

variable {x y : Value} {m n : Int}

section One

variable (left : x.scalar? = some (.int m))
include left

theorem neg_of_int : x.neg = .ok (int (-m)) := by
  rw [neg, left]

theorem abs_of_int : x.abs = .ok (int m.natAbs) := by
  rw [abs, left]

theorem toInt_of_int : x.toInt = .ok m := by
  rw [toInt, int?, left]

variable (right : y.scalar? = some (.int n))
include right

theorem add_of_int : x.add y = .ok (int (m + n)) := by
  simp only [add, left, right]
  rfl

theorem sub_of_int : x.sub y = .ok (int (m - n)) := by
  rw [sub, left, right]
  rfl

theorem mul_of_int : x.mul y = .ok (int (m * n)) := by
  rw [mul, left, right]
  rfl

theorem floorDiv_of_int :
    x.floorDiv y = if n = 0 then .error .divisionByZero else .ok (int (m.fdiv n)) := by
  rw [floorDiv, left, right]
  rfl

theorem mod_of_int :
    x.mod y = if n = 0 then .error .divisionByZero else .ok (int (m.fmod n)) := by
  cases x <;> cases left <;> simp only [mod, right] <;> rfl

theorem power_of_int (natural : 0 ≤ n) : x.power y = .ok (int (naturalPower m n.toNat)) := by
  rw [power, left, right]
  exact if_pos natural

theorem relates_of_int (relation : Relation) :
    x.relates relation y = .ok (relation.holds (compare m n)) := by
  cases x <;> cases left <;> simp [relates, relates.relatesTo, right] <;> rfl

theorem same_of_int : x.same y = (m == n) := by
  cases x <;> cases left <;> simp [same, right, Scalar.same]

end One

end Value

/-- A fault that is reported as a problem of the expression. -/
def Fault.IsReported (fault : Fault) : Prop := ∀ breakdown, fault ≠ .broken breakdown

/-- A result that is an integer or a truth value, or else a fault that is reported. -/
abbrev Settles : Except Fault Value → Prop := Delivers Value.IsIntegral Fault.IsReported

/-- An operation that settles whatever integers and truth values it gets, and however many. -/
def Operation.IsExact (operation : Operation) : Prop :=
  ∀ operands : List Value, (∀ operand ∈ operands, operand.IsIntegral) →
    Settles (operation operands)

theorem Fault.isReported_divisionByZero : Fault.divisionByZero.IsReported := fun _ => nofun

theorem Fault.isReported_domain (detail : Option DomainDetail) : (Fault.domain detail).IsReported :=
  fun _ => nofun

theorem Fault.isReported_refused : Fault.refused.IsReported := fun _ => nofun

/-- A result that fails only where a condition holds. -/
theorem settles_ite {condition : Prop} [Decidable condition] {fault : Fault} {n : Int}
    (reported : fault.IsReported) :
    Settles (if condition then .error fault else .ok (.int n)) := by
  split
  · exact reported
  · exact .int n

namespace Operation

theorem isExact_unary {f : Value → Except Fault Value}
    (settles : ∀ {x : Value} {n : Int}, x.scalar? = some (.int n) → Settles (f x)) :
    IsExact (unary f) := by
  intro operands integral
  unfold unary
  split
  · obtain ⟨n, number⟩ := (integral _ List.mem_cons_self).exists_scalar
    exact settles number
  · exact Fault.isReported_refused

theorem isExact_binary {f : Value → Value → Except Fault Value}
    (settles : ∀ {x y : Value} {m n : Int}, x.scalar? = some (.int m) →
      y.scalar? = some (.int n) → Settles (f x y)) :
    IsExact (binary f) := by
  intro operands integral
  unfold binary
  split
  · obtain ⟨m, left⟩ := (integral _ List.mem_cons_self).exists_scalar
    obtain ⟨n, right⟩ := (integral _ (List.mem_cons_of_mem _ List.mem_cons_self)).exists_scalar
    exact settles left right
  · exact Fault.isReported_refused

end Operation

theorem Relation.holds_less (m n : Int) : less.holds (compare m n) = decide (m < n) := by
  rcases lt_trichotomy m n with order | rfl | order
  · rw [compare_lt_iff_lt.mpr order, decide_eq_true order]
    rfl
  · rw [compare_eq_iff_eq.mpr rfl, decide_eq_false (lt_irrefl m)]
    rfl
  · rw [compare_gt_iff_gt.mpr order, decide_eq_false (lt_asymm order)]
    rfl

theorem Relation.holds_greaterOrEqual (m n : Int) :
    greaterOrEqual.holds (compare m n) = decide (n ≤ m) := by
  rcases lt_trichotomy m n with order | rfl | order
  · rw [compare_lt_iff_lt.mpr order, decide_eq_false (not_le.mpr order)]
    rfl
  · rw [compare_eq_iff_eq.mpr rfl, decide_eq_true (le_refl m)]
    rfl
  · rw [compare_gt_iff_gt.mpr order, decide_eq_true order.le]
    rfl

namespace IntegerOperation

open Value Operation

variable {x y : Value} {m n : Int}

theorem tdiv_eq_of_natAbs (m n : Int) :
    m.tdiv n =
      if decide (0 ≤ m) = decide (0 ≤ n) then (m.natAbs : Int).tdiv n.natAbs
      else -(m.natAbs : Int).tdiv n.natAbs := by
  rw [Int.natCast_natAbs, Int.natCast_natAbs]
  by_cases first : 0 ≤ m <;> by_cases second : 0 ≤ n
  · simp [first, second, abs_of_nonneg]
  · simp [first, second, abs_of_nonneg, abs_of_neg (not_le.mp second)]
  · simp [first, second, abs_of_nonneg, abs_of_neg (not_le.mp first)]
  · simp [first, second, abs_of_neg (not_le.mp first), abs_of_neg (not_le.mp second)]

/-- Division truncates. -/
theorem divide_of_int (left : x.scalar? = some (.int m)) (right : y.scalar? = some (.int n)) :
    divide x y = if n = 0 then .error .divisionByZero else .ok (.int (m.tdiv n)) := by
  have zero : isZero y = (n == 0) := same_of_int right rfl
  unfold divide
  rw [zero]
  by_cases vanishes : n = 0
  · simp [vanishes]
  · have positive : (n.natAbs : Int) ≠ 0 := by omega
    have quotient : (Value.int m.natAbs).floorDiv (.int n.natAbs) =
        .ok (.int ((m.natAbs : Int).tdiv n.natAbs)) := by
      rw [floorDiv_of_int (m := m.natAbs) (n := n.natAbs) rfl rfl, if_neg positive,
        Int.fdiv_eq_ediv_of_nonneg _ (Int.natCast_nonneg _),
        Int.tdiv_eq_ediv_of_nonneg (Int.natCast_nonneg _)]
    have above (z : Value) (k : Int) (known : z.scalar? = some (.int k)) :
        z.relates .greaterOrEqual (.int 0) = .ok (decide (0 ≤ k)) := by
      rw [relates_of_int known rfl, Relation.holds_greaterOrEqual]
    simp only [beq_iff_eq, vanishes, if_false, abs_of_int left, abs_of_int right,
      above x m left, above y n right, bind, Except.bind, quotient]
    rw [tdiv_eq_of_natAbs m n]
    by_cases agree : decide (0 ≤ m) = decide (0 ≤ n)
    · rw [if_pos agree, if_pos agree]
    · rw [if_neg agree, if_neg agree]
      exact neg_of_int (m := (m.natAbs : Int).tdiv n.natAbs) rfl

/-- A power with a negative exponent is outside the domain. -/
theorem power_of_int (left : x.scalar? = some (.int m)) (right : y.scalar? = some (.int n)) :
    power x y = if n < 0 then .error (.detailed .negativeExponent)
      else .ok (.int (naturalPower m n.toNat)) := by
  unfold power
  rw [relates_of_int right (n := 0) rfl, Relation.holds_less]
  by_cases negative : n < 0
  · simp [negative, bind, Except.bind]
  · rw [decide_eq_false negative, if_neg negative]
    exact Value.power_of_int left right (not_lt.mp negative)

theorem exists_mapM_toInt {operands : List Value}
    (integral : ∀ operand ∈ operands, operand.IsIntegral) :
    ∃ numbers, operands.mapM Value.toInt = .ok numbers := by
  induction operands with
  | nil => exact ⟨[], rfl⟩
  | cons operand rest ih =>
      obtain ⟨n, number⟩ := (integral operand List.mem_cons_self).exists_scalar
      obtain ⟨numbers, others⟩ :=
        ih fun other member => integral other (List.mem_cons_of_mem _ member)
      refine ⟨n :: numbers, ?_⟩
      rw [List.mapM_cons, toInt_of_int number, others]
      rfl

theorem settles_factorialOf (known : x.scalar? = some (.int n)) : Settles (factorialOf x) := by
  unfold factorialOf
  rw [toInt_of_int known]
  simp only [bind, Except.bind]
  split
  · exact Fault.isReported_domain none
  · exact .int _

theorem isExact_gcd : IsExact gcd := by
  intro operands integral
  obtain ⟨numbers, read⟩ := exists_mapM_toInt integral
  simp only [gcd, read, bind, Except.bind]
  exact .int _

theorem isExact_lcm : IsExact lcm := by
  intro operands integral
  obtain ⟨numbers, read⟩ := exists_mapM_toInt integral
  simp only [lcm, read, bind, Except.bind]
  exact .int _

theorem isExact_of_mem_comparisons : ∀ entry ∈ comparisons, IsExact entry.2 := by
  have compared (relation : Relation) :
      IsExact (binary fun x y => (x.relates relation y).map .bool) := by
    refine isExact_binary fun left right => ?_
    rw [relates_of_int left right]
    exact .bool _
  simp only [comparisons, List.forall_mem_cons]
  exact ⟨isExact_binary fun _ _ => .bool _, isExact_binary fun _ _ => .bool _, compared .less,
    compared .lessOrEqual, compared .greater, compared .greaterOrEqual, List.forall_mem_nil _⟩

theorem isExact_divide : IsExact (.binarySteps divide) :=
  isExact_binary fun left right => by
    rw [divide_of_int left right]
    split
    · exact Fault.isReported_divisionByZero
    · exact .int _

theorem isExact_power : IsExact (.binarySteps power) :=
  isExact_binary fun left right => by
    rw [power_of_int left right]
    split
    · exact Fault.isReported_domain _
    · exact .int _

theorem isExact_mod : IsExact (.binary Value.mod) :=
  isExact_binary fun left right =>
    mod_of_int left right ▸ settles_ite Fault.isReported_divisionByZero

/-- Every operation but the comma is exact. -/
theorem isExact_of_mem_table : ∀ entry ∈ table, entry.1 ≠ "," → IsExact entry.2 := by
  simp only [table, List.forall_mem_append, List.forall_mem_cons]
  refine ⟨⟨?add, ?sub, ?mul, ?divide, ?floorDiv, ?percent, ?mod, ?power, ?negate, ?factorial, ?abs,
    ?gcd, ?lcm, ?comma, List.forall_mem_nil _⟩, ?comparisons⟩
  case add => exact fun _ => isExact_binary fun left right => add_of_int left right ▸ .int _
  case sub => exact fun _ => isExact_binary fun left right => sub_of_int left right ▸ .int _
  case mul => exact fun _ => isExact_binary fun left right => mul_of_int left right ▸ .int _
  case divide => exact fun _ => isExact_divide
  case floorDiv =>
    exact fun _ => isExact_binary fun left right =>
      floorDiv_of_int left right ▸ settles_ite Fault.isReported_divisionByZero
  case percent | mod => exact fun _ => isExact_mod
  case power => exact fun _ => isExact_power
  case negate => exact fun _ => isExact_unary fun number => neg_of_int number ▸ .int _
  case factorial => exact fun _ => isExact_unary settles_factorialOf
  case abs => exact fun _ => isExact_unary fun number => abs_of_int number ▸ .int _
  case gcd => exact fun _ => isExact_gcd
  case lcm => exact fun _ => isExact_lcm
  case comma => exact fun other => absurd rfl other
  case comparisons => exact fun entry member _ => isExact_of_mem_comparisons entry member

end IntegerOperation

/-- A failure that is a problem of the expression. -/
def Failure.IsProblem (failure : Failure) : Prop := ∃ problem, failure = .problem problem

/-- What a tree may come to: an integer or a truth value or, where it may be a chain of
arguments, several of them. -/
def Value.Fits (chained : Bool) (value : Value) : Prop :=
  if chained then ∀ item ∈ Evaluator.argumentsOf value, item.IsIntegral else value.IsIntegral

theorem Value.IsIntegral.fits {value : Value} (integral : value.IsIntegral) (chained : Bool) :
    value.Fits chained := by
  cases chained with
  | false => exact integral
  | true => cases integral <;> exact List.forall_mem_singleton.mpr (by constructor)

theorem Value.Fits.comma {left right : Value} (chain : left.Fits true) (last : right.IsIntegral) :
    (ValueLike.comma left right).Fits true := by
  have both : ∀ item ∈ Evaluator.argumentsOf left ++ [right], item.IsIntegral :=
    List.forall_mem_append.mpr ⟨chain, List.forall_mem_singleton.mpr last⟩
  cases left <;> exact both

namespace Evaluator

/-- A fault that is reported becomes a problem at the token. -/
theorem isProblem_blame {fault : Fault} (reported : fault.IsReported) (token : Token) :
    (blame token fault).IsProblem := by
  cases fault with
  | divisionByZero => exact ⟨_, rfl⟩
  | domain detail => exact ⟨_, rfl⟩
  | refused => exact ⟨_, rfl⟩
  | broken breakdown => exact absurd rfl (reported breakdown)

/-- A literal is an integer or reported, and so is every constant. -/
theorem delivers_leafValue {token : Token}
    (valued : token.isConstant = true ∨ ∃ number, token.value = some (.number number)) :
    Delivers Value.IsIntegral Failure.IsProblem (integer.leafValue token) := by
  unfold leafValue
  split
  · exact ⟨_, rfl⟩
  · rename_i literal
    obtain ⟨number, value⟩ := valued.resolve_left literal
    rw [value]
    cases number with
    | int n => exact .int n
    | float x =>
        change Delivers _ _ (Except.mapError _ (if x.isIntegral then _ else _))
        split
        · exact .int _
        · exact ⟨_, rfl⟩

theorem delivers_apply {token : Token} {operands : List Value} (other : token.lexeme ≠ ",")
    (integral : ∀ operand ∈ ValueLike.spread operands, operand.IsIntegral) :
    Delivers Value.IsIntegral Failure.IsProblem (integer.apply token operands) := by
  unfold apply operation?
  rcases found : integer.operations.lookup token.lexeme with _ | operation
  · exact ⟨_, rfl⟩
  · obtain ⟨before, after, rows, -⟩ := List.lookup_eq_some_iff.mp found
    have row : (token.lexeme, operation) ∈ IntegerOperation.table := by
      rw [show IntegerOperation.table = _ from rows]
      simp
    have settles : Settles (operation (ValueLike.spread operands)) :=
      IntegerOperation.isExact_of_mem_table _ row other _ integral
    exact settles.mapError fun _ reported => isProblem_blame reported token

end Evaluator

namespace Tree

/-- Commas only join arguments: a comma stands in a chain, the left operand of the next comma
or the only operand of an operator. Whether the tree may itself be such a chain is told. -/
def JoinsArguments (chained : Bool) : Tree → Prop
  | leaf _ => True
  | unary _ operand => operand.JoinsArguments true
  | binary operator left right =>
    (operator.lexeme = "," → chained = true) ∧
      left.JoinsArguments (operator.lexeme = ",") ∧ right.JoinsArguments false

instance JoinsArguments.decidable (chained : Bool) :
    (tree : Tree) → Decidable (tree.JoinsArguments chained)
  | leaf _ => .isTrue trivial
  | unary _ operand => JoinsArguments.decidable true operand
  | binary operator left right =>
    have := JoinsArguments.decidable (operator.lexeme = ",") left
    have := JoinsArguments.decidable false right
    inferInstanceAs (Decidable (_ ∧ _ ∧ _))

/-- Leaves are constants or numbers, and no operator over one operand is a comma. -/
def IsArithmetic : Tree → Prop
  | leaf token => token.isConstant = true ∨ ∃ number, token.value = some (.number number)
  | unary operator operand => operator.lexeme ≠ "," ∧ operand.IsArithmetic
  | binary _ left right => left.IsArithmetic ∧ right.IsArithmetic

open Evaluator

/-- A tree in which commas only join arguments comes to an integer or a truth value, or to
several if it is a chain of arguments itself, or else has a problem. -/
theorem delivers_evaluate {tree : Tree} {chained : Bool} (arithmetic : tree.IsArithmetic)
    (joins : tree.JoinsArguments chained) :
    Delivers (Value.Fits chained) Failure.IsProblem (integer.evaluate tree) := by
  induction tree generalizing chained with
  | leaf token => exact (delivers_leafValue arithmetic).imp fun _ integral => integral.fits chained
  | unary operator operand ih =>
      refine (ih arithmetic.2 joins).bind fun value fits => ?_
      refine (delivers_apply arithmetic.1 ?_).imp fun _ integral => integral.fits chained
      rw [spread_one]
      exact fits
  | binary operator left right leftIh rightIh =>
      refine (leftIh arithmetic.1 joins.2.1).bind fun first firstFits => ?_
      refine (rightIh arithmetic.2 joins.2.2).bind fun second integral => ?_
      by_cases comma : operator.lexeme = ","
      · rw [decide_eq_true comma] at firstFits
        obtain rfl : chained = true := joins.1 comma
        rw [(observe_comma rfl comma first second).1]
        exact firstFits.comma integral
      · rw [decide_eq_false comma] at firstFits
        refine (delivers_apply comma ?_).imp fun _ integral => integral.fits chained
        exact List.forall_mem_cons.mpr ⟨firstFits, List.forall_mem_singleton.mpr integral⟩

end Tree

end Calculator
