import Calculator.Binary64.Basic

/-!
# Rounding to binary64

A nonnegative rational goes to the nearest magnitude, and from the middle
between two to the one of even rank (`Magnitude.ofUnits`, `Magnitude.ofRatio`). Past the middle
between the largest finite value and the next power of two it goes to infinity.
-/

namespace Calculator

/-- The integer nearest to `num / den`; a half goes to the even neighbour. -/
def roundHalfEven (num den : Nat) : Nat :=
  let quotient := num / den
  let twice := 2 * (num % den)
  if twice < den then quotient
  else if den < twice then quotient + 1
  else quotient + quotient % 2

/-- The integer nearest to the signed quotient; a half goes to the even
neighbour. -/
def roundHalfEvenInt (num : Int) (den : Nat) : Int :=
  if num < 0 then -(roundHalfEven num.natAbs den : Int) else roundHalfEven num.natAbs den

namespace Magnitude

/-- The magnitude nearest to `num / den` units.

The integer part of the quotient tells the block of ranks, hence the width of a
step; the quotient in steps is rounded, and a carry runs into the next block by
itself. -/
def ofUnits (num den : Nat) : Magnitude :=
  let block := (num / den).log2 - 52
  ⟨min infinityRank (block * Nat.pow 2 52 + roundHalfEven num (den * Nat.pow 2 block)),
    Nat.min_le_left _ _⟩

/-- The magnitude nearest to `num / den`. -/
def ofRatio (num den : Nat) : Magnitude := ofUnits (num * unitsPerOne) den

def ofNat (n : Nat) : Magnitude := ofRatio n 1

end Magnitude

namespace Binary64

/-- The number nearest to `num / den`, where an exact zero takes the given
sign. -/
def ofRatio (zeroSign : Bool) (num : Int) (den : Nat) : Binary64 :=
  if num = 0 then zero zeroSign
  else signed (num < 0) (Magnitude.ofRatio num.natAbs den)

/-- The number nearest to a count of units, where zero takes the given sign. -/
def ofUnits (zeroSign : Bool) (units : Int) : Binary64 :=
  if units = 0 then zero zeroSign
  else signed (units < 0) (Magnitude.ofUnits units.natAbs 1)

/-- The number nearest to an integer; infinite when the integer is too large. -/
def ofInt (n : Int) : Binary64 := ofRatio false n 1

/-- The number nearest to an integer, if there is a finite one. -/
def ofInt? (n : Int) : Option Binary64 :=
  let x := ofInt n
  if x.isFinite then some x else none

end Binary64

end Calculator
