import Calculator.Text.Printable

/-!
# Quoted text

How a text is shown between quotes: in single quotes, unless it holds single
quotes and no double ones. Backslashes, the surrounding quote and characters
that cannot be shown are escaped.
-/

namespace Calculator.Text

/-- A number in hexadecimal, with at least the given count of digits. -/
def hexadecimal (width n : Nat) : List Char :=
  let digits := Nat.toDigits 16 n
  List.replicate (width - digits.length) '0' ++ digits

def numbered (c : Char) : List Char :=
  if c.toNat < 0x100 then '\\' :: 'x' :: hexadecimal 2 c.toNat
  else if c.toNat < 0x10000 then '\\' :: 'u' :: hexadecimal 4 c.toNat
  else '\\' :: 'U' :: hexadecimal 8 c.toNat

/-- One character of a quoted text. -/
def escape (quote c : Char) : List Char :=
  if c = quote ∨ c = '\\' then ['\\', c]
  else if c = '\t' then ['\\', 't']
  else if c = '\n' then ['\\', 'n']
  else if c = '\r' then ['\\', 'r']
  else if isPrintable c then [c]
  else numbered c

/-- One character of a text in which only ASCII characters may stand. -/
def escapeForeign (c : Char) : List Char := if c.toNat < 0x80 then [c] else numbered c

def quoted (text : String) : String :=
  let chars := text.toList
  let quote := if chars.contains '\'' && !chars.contains '"' then '"' else '\''
  String.ofList (quote :: chars.flatMap (escape quote) ++ [quote])

end Calculator.Text
