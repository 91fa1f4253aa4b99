import Calculator.Number

/-!
# Numerals

A numeral is the spelling of a number: digits in base 16, 8 or 2 behind a
marker, or decimal digits with at most one point and at most one exponent. A
numeral keeps its spelling (`Numeral.chars`) and has a value (`Numeral.value`);
`Numeral.read?` takes the longest one off the front of a text.
-/

namespace Calculator

/-- The exponent of a decimal numeral: its mark, its sign if it has one, and its
digits. -/
structure Exponent where
  mark : Char
  sign : Option Char
  digits : List Char
deriving DecidableEq

inductive Numeral
  | based (marker : Char) (digits : List Char)
  | decimal (whole : List Char) (fraction : Option (List Char)) (exponent : Option Exponent)
deriving DecidableEq

namespace Exponent

def chars (exponent : Exponent) : List Char :=
  exponent.mark :: (exponent.sign.toList ++ exponent.digits)

def value (exponent : Exponent) : Int :=
  let magnitude := Nat.ofDigitChars 10 exponent.digits 0
  if exponent.sign = some '-' then -(magnitude : Int) else magnitude

/-- The exponent at the front of a text, and what follows it. A mark without
digits behind it is no exponent. -/
def read? : List Char → Option (Exponent × List Char)
  | mark :: rest =>
    if mark = 'e' ∨ mark = 'E' then
      match rest with
      | sign :: signed =>
        if sign = '+' ∨ sign = '-' then finish mark (some sign) signed
        else finish mark none rest
      | [] => none
    else none
  | [] => none
where
  /-- The digits end the exponent. -/
  finish (mark : Char) (sign : Option Char) (rest : List Char) :
      Option (Exponent × List Char) :=
    let digits := rest.takeWhile Char.isDigit
    if digits = [] then none else some (⟨mark, sign, digits⟩, rest.dropWhile Char.isDigit)

end Exponent

namespace Numeral

/-- The value of a digit in bases up to sixteen. -/
def digitValue? (c : Char) : Option Nat :=
  if c.isDigit then some (c.toNat - '0'.toNat)
  else if 'a' ≤ c ∧ c ≤ 'f' then some (c.toNat - 'a'.toNat + 10)
  else if 'A' ≤ c ∧ c ≤ 'F' then some (c.toNat - 'A'.toNat + 10)
  else none

def isDigitOf (base : Nat) (c : Char) : Bool :=
  match digitValue? c with
  | some value => decide (value < base)
  | none => false

/-- The base that a marker announces. -/
def baseOf? (marker : Char) : Option Nat :=
  if marker = 'x' ∨ marker = 'X' then some 16
  else if marker = 'o' ∨ marker = 'O' then some 8
  else if marker = 'b' ∨ marker = 'B' then some 2
  else none

/-- The natural number that digits of the given base spell. -/
def natOfDigits (base : Nat) (digits : List Char) : Nat :=
  digits.foldl (fun value c => base * value + (digitValue? c).getD 0) 0

def chars : Numeral → List Char
  | based marker digits => '0' :: marker :: digits
  | decimal whole fraction exponent =>
    whole ++ (fraction.elim [] ('.' :: ·)) ++ (exponent.elim [] Exponent.chars)

/-- The decimal that a decimal numeral spells. -/
def decimalValue (whole : List Char) (fraction : Option (List Char))
    (exponent : Option Exponent) : Decimal :=
  let places := fraction.getD []
  ⟨Nat.ofDigitChars 10 (whole ++ places) 0,
    (exponent.elim 0 Exponent.value) - (places.length : Int)⟩

/-- The number that a numeral stands for. Decimal digits alone and digits behind
a marker give an integer; with a point or an exponent the nearest binary64
number is meant. -/
def value : Numeral → Number
  | based marker digits => .int (natOfDigits ((baseOf? marker).getD 10) digits)
  | decimal whole none none => .int (Nat.ofDigitChars 10 whole 0)
  | decimal whole fraction exponent =>
    .float (decimalValue whole fraction exponent).toBinary64

/-- A numeral with a base marker at the front of a text, and what follows it. -/
def readBased? : List Char → Option (Numeral × List Char)
  | '0' :: marker :: rest =>
    match baseOf? marker with
    | some base =>
      let digits := rest.takeWhile (isDigitOf base)
      if digits = [] then none
      else some (based marker digits, rest.dropWhile (isDigitOf base))
    | none => none
  | _ => none

/-- The digits of a decimal numeral at the front of a text, with at most one
point among them, and what follows. -/
def readDigits? (text : List Char) : Option (List Char × Option (List Char) × List Char) :=
  let whole := text.takeWhile Char.isDigit
  match text.dropWhile Char.isDigit with
  | '.' :: rest =>
    let fraction := rest.takeWhile Char.isDigit
    if whole = [] ∧ fraction = [] then none
    else some (whole, some fraction, rest.dropWhile Char.isDigit)
  | rest => if whole = [] then none else some (whole, none, rest)

/-- A decimal numeral at the front of a text, and what follows it. -/
def readDecimal? (text : List Char) : Option (Numeral × List Char) :=
  match readDigits? text with
  | some (whole, fraction, rest) =>
    match Exponent.read? rest with
    | some (exponent, rest) => some (decimal whole fraction (some exponent), rest)
    | none => some (decimal whole fraction none, rest)
  | none => none

/-- The numeral at the front of a text, and what follows it. A base marker
with a digit behind it comes before a decimal reading. -/
def read? (text : List Char) : Option (Numeral × List Char) :=
  (readBased? text).orElse fun _ => readDecimal? text

end Numeral

end Calculator
