import Calculator.Text.Blank
import Calculator.Text.Digit
import Calculator.Token.Numeral

/-!
# Numbers spelled in texts

A whole text may spell an integer (`Spelled.integer?`) or a binary64 number
(`Spelled.real?`). White space around it does not count, digits may be of any
script, one sign may come first, and a single low line may stand between two
digits.
-/

namespace Calculator.Spelled

/-- Digits without the low lines between two of them. -/
def joinDigits : List Char → List Char
  | c :: '_' :: d :: rest =>
    if c.isDigit && d.isDigit then c :: joinDigits (d :: rest)
    else c :: '_' :: joinDigits (d :: rest)
  | c :: rest => c :: joinDigits rest
  | [] => []

/-- Whether a character may surround a number: white space other than the four
information separators. -/
def isMargin (c : Char) : Bool := Text.isBlank c && !(0x1C ≤ c.toNat && c.toNat ≤ 0x1F)

/-- The characters of a text that count, with plain digits. -/
def counted (text : String) : List Char :=
  let started := text.toList.dropWhile isMargin
  let ended := (started.reverse.dropWhile isMargin).reverse
  joinDigits (ended.map Text.plainDigit)

/-- A sign at the front, true for minus, and what follows it. -/
def splitSign : List Char → Bool × List Char
  | '-' :: rest => (true, rest)
  | '+' :: rest => (false, rest)
  | text => (false, text)

def integer? (text : String) : Option Int :=
  let (negative, digits) := splitSign (counted text)
  if !digits.isEmpty && digits.all Char.isDigit then
    let size := Nat.ofDigitChars 10 digits 0
    some (if negative then -(size : Int) else size)
  else none

/-- The binary64 number that a text spells: a decimal numeral, or a word for
infinity or for no number, in letters of either case. -/
def real? (text : String) : Option Binary64 :=
  let (negative, rest) := splitSign (counted text)
  let word := String.ofList (rest.map Char.toLower)
  if word = "inf" ∨ word = "infinity" then some (.infinity negative)
  else if word = "nan" then some .nan
  else
    match Numeral.readDecimal? rest with
    | some (.decimal whole fraction exponent, []) =>
      let size := (Numeral.decimalValue whole fraction exponent).toBinary64
      some (if negative then -size else size)
    | _ => none

end Calculator.Spelled
