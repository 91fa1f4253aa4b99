import Calculator.Decimal.Layout

/-!
# Decimals of chosen precision

A magnitude written with a chosen number of places behind the point, with a
chosen number of digits and an exponent, or in whichever of the two forms suits
its size. The digits are those of the nearest decimal, a half going to the even
neighbour.
-/

namespace Calculator

namespace Decimal

/-- A whole part and places with the point between them. Without places the
point is left out, unless it is to be kept. -/
def joined (keepPoint : Bool) (whole places : List Char) : List Char :=
  if places = [] && !keepPoint then whole else whole ++ '.' :: places

def fixedText (keepPoint : Bool) (magnitude : Magnitude) (places : Nat) : List Char :=
  let digits := Nat.toDigits 10 (roundedAt magnitude (-(places : Int))).digits
  let padded := List.replicate (places + 1 - digits.length) '0' ++ digits
  joined keepPoint (padded.take (padded.length - places)) (padded.drop (padded.length - places))

/-- The first digits of a magnitude, as many as wanted, and the exponent of the
leading one. Zero has zeros only. -/
def significant (magnitude : Magnitude) (count : Nat) : List Char × Int :=
  if magnitude.isZero then (List.replicate count '0', 0)
  else
    let decimal := rounded magnitude count
    (Nat.toDigits 10 decimal.digits, decimal.leadingExponent)

/-- A magnitude with one digit before the point, a fixed number of places, and
an exponent. -/
def scientificText (keepPoint : Bool) (magnitude : Magnitude) (places : Nat) : List Char :=
  let (digits, exponent) := significant magnitude (places + 1)
  joined keepPoint (digits.take 1) (digits.drop 1) ++ exponentText exponent

/-- Places without the zeros at their end. -/
def dropZeros (places : List Char) : List Char :=
  (places.reverse.dropWhile (· == '0')).reverse

/-- A magnitude with a number of digits, of which there is at least one. An
exponent is written only if it is less than minus four or not less than the
number of digits. Zeros at the end go if the point need not be kept. -/
def generalText (keepPoint : Bool) (magnitude : Magnitude) (count : Nat) : List Char :=
  let count := max count 1
  let (digits, exponent) := significant magnitude count
  let isPlain := decide (-4 ≤ exponent ∧ exponent < count)
  let (whole, places) :=
    if !isPlain then (digits.take 1, digits.drop 1)
    else if exponent < 0 then (['0'], List.replicate (-exponent - 1).toNat '0' ++ digits)
    else (digits.take (exponent.toNat + 1), digits.drop (exponent.toNat + 1))
  joined keepPoint whole (if keepPoint then places else dropZeros places)
    ++ if isPlain then [] else exponentText exponent

end Decimal

/-- A number with a fixed number of significant digits and an exponent. -/
def Binary64.scientific (x : Binary64) (count : Nat) : String :=
  String.ofList (x.textBy fun magnitude => Decimal.scientificText false magnitude (count - 1))

end Calculator
