import Calculator.Decimal.Shortest

/-!
# Written decimals

How the digits of a decimal are laid out: without an exponent where the leading
digit stands near the point, with one elsewhere. A layout holds the decisions.
`Binary64.text` is the form in which every number is shown.
-/

namespace Calculator

/-- The decisions of writing a decimal: the least exponent of the leading digit
that is written without an exponent, the first one that is not, and what follows
a whole number written without an exponent. -/
structure Layout where
  leastPlain : Int
  firstScientific : Int
  wholeMark : List Char

/-- Values from `1e-4` up to, but without, `1e16` have no exponent, and a whole
number among them ends in `.0`. -/
def Layout.standard : Layout := ⟨-4, 16, ['.', '0']⟩

/-- The standard layout with nothing after whole numbers. -/
def Layout.bare : Layout := ⟨-4, 16, []⟩

namespace Decimal

/-- The exponent part: a mark, a sign, and at least two digits. -/
def exponentText (exponent : Int) : List Char :=
  let digits := Nat.toDigits 10 exponent.natAbs
  'e' :: (if exponent < 0 then '-' else '+') ::
    (if digits.length < 2 then '0' :: digits else digits)

/-- Digits with the point behind the first one. -/
def pointedText : List Char → List Char
  | [] => []
  | first :: [] => [first]
  | first :: rest => first :: '.' :: rest

/-- Digits whose first one has the given exponent, written without an exponent
part. -/
def plainText (wholeMark digits : List Char) (leading : Int) : List Char :=
  if leading < 0 then
    '0' :: '.' :: (List.replicate (-leading - 1).toNat '0' ++ digits)
  else
    let whole := leading.toNat + 1
    if digits.length ≤ whole then
      digits ++ List.replicate (whole - digits.length) '0' ++ wholeMark
    else digits.take whole ++ '.' :: digits.drop whole

def text (layout : Layout) (decimal : Decimal) : List Char :=
  let digits := Nat.toDigits 10 decimal.digits
  let leading := decimal.leadingExponent
  if layout.leastPlain ≤ leading ∧ leading < layout.firstScientific then
    plainText layout.wholeMark digits leading
  else pointedText digits ++ exponentText leading

end Decimal

namespace Binary64

/-- Writes the sign and hands a finite magnitude on. -/
def textBy (write : Magnitude → List Char) : Binary64 → List Char
  | nan => "nan".toList
  | signed negative magnitude =>
    (if negative then ['-'] else []) ++
      (if magnitude.isInfinite then "inf".toList else write magnitude)

/-- The shortest digits that read back, in the given layout. -/
def textIn (layout : Layout) (x : Binary64) : String :=
  String.ofList (x.textBy fun magnitude => (Decimal.shortest magnitude).text layout)

/-- The shortest digits that read back, in the standard layout. -/
def text (x : Binary64) : String := x.textIn Layout.standard

end Binary64

end Calculator
