/-!
# Binary64 numbers

The nonnegative binary64 values, in increasing order and with infinity last, are
numbered from zero: the position of a value is its rank. A number is a sign and
a rank, or not a number. Every finite value is a whole multiple of the smallest
positive one, so exact arithmetic on finite values is arithmetic on integers
(`Magnitude.units`, `Binary64.scaled`).
-/

namespace Calculator

/-- The rank of infinity: one more than the rank of the largest finite value. -/
def infinityRank : Nat := 0x7FF0000000000000

/-- How many times the smallest positive value fits into one. -/
def unitsPerOne : Nat := Nat.pow 2 1074

/-- A nonnegative binary64 value, infinity included, given by its rank. -/
structure Magnitude where
  rank : Nat
  rank_le : rank ≤ infinityRank
deriving DecidableEq

namespace Magnitude

def zero : Magnitude := ⟨0, Nat.zero_le _⟩

/-- The greatest magnitude. -/
def infinity : Magnitude := ⟨infinityRank, Nat.le_refl _⟩

def isInfinite (magnitude : Magnitude) : Bool :=
  magnitude.rank == infinityRank

def isZero (magnitude : Magnitude) : Bool :=
  magnitude.rank == 0

/-- The value of a magnitude as a multiple of the smallest positive value.

Below rank `2 ^ 52` the values are that many units. From there on each block of
`2 ^ 52` ranks covers one power of two, in steps twice as wide as those of the
block before. -/
def units (magnitude : Magnitude) : Nat :=
  if magnitude.rank < Nat.pow 2 52 then
    magnitude.rank
  else
    (Nat.pow 2 52 + magnitude.rank % Nat.pow 2 52) *
      Nat.pow 2 (magnitude.rank / Nat.pow 2 52 - 1)

end Magnitude

/-- A binary64 number: not a number, or a sign with a magnitude. Zero has both
signs. -/
inductive Binary64
  | nan
  | signed (negative : Bool) (magnitude : Magnitude)
deriving DecidableEq

namespace Binary64

def zero (negative : Bool) : Binary64 := signed negative Magnitude.zero

def infinity (negative : Bool) : Binary64 := signed negative Magnitude.infinity

instance : Inhabited Binary64 := ⟨zero false⟩

/-- Whether a number is neither infinite nor `nan`. -/
def isFinite : Binary64 → Bool
  | nan => false
  | signed _ magnitude => !magnitude.isInfinite

def isInfinite : Binary64 → Bool
  | nan => false
  | signed _ magnitude => magnitude.isInfinite

def isNaN : Binary64 → Bool
  | nan => true
  | signed _ _ => false

/-- Whether a number is zero, of either sign. -/
def isZero : Binary64 → Bool
  | nan => false
  | signed _ magnitude => magnitude.isZero

/-- The sign of a number; `nan` counts as positive. -/
def isNegative : Binary64 → Bool
  | nan => false
  | signed negative _ => negative

def abs : Binary64 → Binary64
  | nan => nan
  | signed _ magnitude => signed false magnitude

def neg : Binary64 → Binary64
  | nan => nan
  | signed negative magnitude => signed (!negative) magnitude

/-- The magnitude of the number under the sign of another one. -/
def withSignOf (x sign : Binary64) : Binary64 :=
  match x with
  | nan => nan
  | signed _ magnitude => signed sign.isNegative magnitude

instance : Neg Binary64 := ⟨neg⟩

/-- The value of a finite number as a multiple of the smallest positive value. -/
def scaled : Binary64 → Int
  | nan => 0
  | signed false magnitude => magnitude.units
  | signed true magnitude => -(magnitude.units : Int)

/-- The place of a number in the order of all numbers: zeros of both signs share
a place, and `nan` has none. -/
def place? : Binary64 → Option Int
  | nan => none
  | signed false magnitude => some magnitude.rank
  | signed true magnitude => some (-(magnitude.rank : Int))

/-- Equality of values: zeros are equal, and `nan` equals nothing. -/
def eq (x y : Binary64) : Bool :=
  match x.place?, y.place? with
  | some a, some b => a == b
  | _, _ => false

/-- The order of values; false if either number is `nan`. -/
def lt (x y : Binary64) : Bool :=
  match x.place?, y.place? with
  | some a, some b => decide (a < b)
  | _, _ => false

/-- The weak order of values; false if either number is `nan`. -/
def le (x y : Binary64) : Bool :=
  match x.place?, y.place? with
  | some a, some b => decide (a ≤ b)
  | _, _ => false

end Binary64

end Calculator
