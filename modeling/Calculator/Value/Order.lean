import Calculator.Value.Basic

/-!
# Equality and order of values

Numbers of all kinds are compared by value, without rounding; texts by code
points; lists item by item. Values of different nature are unequal and have no
order, nor have complex numbers.
-/

namespace Calculator

namespace Number

/-- How two numbers compare, unless one is `nan`. -/
def compare? : Number → Number → Option Ordering
  | int m, int n => some (compare m n)
  | int n, float x => (x.compareInt? n).map Ordering.swap
  | float x, int n => x.compareInt? n
  | float x, float y =>
    match x.place?, y.place? with
    | some a, some b => some (compare a b)
    | _, _ => none

end Number

namespace Scalar

def same : Scalar → Scalar → Bool
  | int m, int n => m == n
  | int n, float x => x.compareInt? n == some .eq
  | float x, int n => x.compareInt? n == some .eq
  | float x, float y => x.eq y
  | complex z, complex w => z.eq w
  | complex z, int n => z.im.isZero && z.re.compareInt? n == some .eq
  | int n, complex z => z.im.isZero && z.re.compareInt? n == some .eq
  | complex z, float x => z.im.isZero && z.re.eq x
  | float x, complex z => z.im.isZero && z.re.eq x

/-- A number that is not complex. -/
def real? : Scalar → Option Number
  | int n => some (.int n)
  | float x => some (.float x)
  | complex _ => none

end Scalar

inductive Relation
  | less
  | lessOrEqual
  | greater
  | greaterOrEqual
deriving DecidableEq

/-- Whether a relation holds of two things that compare in the given way. -/
def Relation.holds : Relation → Ordering → Bool
  | less, .lt => true
  | lessOrEqual, .lt => true
  | lessOrEqual, .eq => true
  | greater, .gt => true
  | greaterOrEqual, .gt => true
  | greaterOrEqual, .eq => true
  | _, _ => false

namespace Value

/-- Whether two values are one and the same constant. -/
def isIdentical : Value → Value → Bool
  | undefined name _, undefined other _ => name == other
  | _, _ => false

mutual

def same : Value → Value → Bool
  | text s, other => match other with
    | text t => s == t
    | _ => false
  | nothing, other => match other with
    | nothing => true
    | _ => false
  | arguments xs, other => match other with
    | arguments ys => sameAll xs ys
    | list ys => sameAll xs ys
    | _ => false
  | list xs, other => match other with
    | arguments ys => sameAll xs ys
    | list ys => sameAll xs ys
    | _ => false
  | int n, other => (other.scalar?.map (Scalar.same (.int n))).getD false
  | float x, other => (other.scalar?.map (Scalar.same (.float x))).getD false
  | complex z, other => (other.scalar?.map (Scalar.same (.complex z))).getD false
  | bool b, other =>
    (other.scalar?.map (Scalar.same (.int (if b then 1 else 0)))).getD false
  | undefined _ number, other => (other.scalar?.map (Scalar.same number)).getD false

/-- Equality of the items of two lists. Identical items count as equal. -/
def sameAll : List Value → List Value → Bool
  | [], [] => true
  | x :: xs, y :: ys => (x.isIdentical y || x.same y) && sameAll xs ys
  | _, _ => false

end

/-- Whether a relation holds of two numbers; none holds of `nan`. -/
def relatesScalars (relation : Relation) (x y : Scalar) : Except Fault Bool :=
  match x.real?, y.real? with
  | some a, some b => .ok ((a.compare? b).elim false relation.holds)
  | _, _ => .error .refused

mutual

/-- Whether a relation holds of two values. -/
def relates (relation : Relation) : Value → Value → Except Fault Bool
  | text s, other => match other with
    | text t => .ok (relation.holds (if s < t then .lt else if t < s then .gt else .eq))
    | _ => .error .refused
  | nothing, _ => .error .refused
  | arguments xs, other => match other with
    | arguments ys => relatesAll relation xs ys
    | list ys => relatesAll relation xs ys
    | _ => .error .refused
  | list xs, other => match other with
    | arguments ys => relatesAll relation xs ys
    | list ys => relatesAll relation xs ys
    | _ => .error .refused
  | int n, other => relatesTo relation (.int n) other.scalar?
  | float x, other => relatesTo relation (.float x) other.scalar?
  | complex z, other => relatesTo relation (.complex z) other.scalar?
  | bool b, other => relatesTo relation (.int (if b then 1 else 0)) other.scalar?
  | undefined _ number, other => relatesTo relation number other.scalar?
where
  /-- Whether a relation holds of a number and what may be another one. -/
  relatesTo (relation : Relation) (x : Scalar) (other : Option Scalar) : Except Fault Bool :=
    match other with
    | some y => relatesScalars relation x y
    | none => .error .refused

/-- Whether a relation holds of two lists: the first items that are neither
identical nor equal decide, and without such items their lengths. -/
def relatesAll (relation : Relation) : List Value → List Value → Except Fault Bool
  | [], [] => .ok (relation.holds .eq)
  | [], _ :: _ => .ok (relation.holds .lt)
  | _ :: _, [] => .ok (relation.holds .gt)
  | x :: xs, y :: ys =>
    if x.isIdentical y || x.same y then relatesAll relation xs ys else x.relates relation y

end

/-- The first of several values that no later one exceeds in the given sense. -/
def extremum (relation : Relation) (first : Value) (rest : List Value) : Except Fault Value :=
  rest.foldlM (fun best value => do
    if ← value.relates relation best then .ok value else .ok best) first

end Value

end Calculator
