import Calculator.Decimal.Precision
import Calculator.Template.Basic
import Calculator.Value.Basic

/-!
# Filling templates

`Template.fill` writes one value into a template. The value has to be used up by
the places, each of which takes it as its width, as its precision or as what is
written; only a list may be left over. Places that name a part of the value
cannot be filled, as no value has named parts. The first fault from left to right
is the one that is reported.
-/

namespace Calculator

namespace Template

/-- What is written at a place: sign and marker, which stand before any zeros
that fill up the width, and the text behind them. Only numbers are filled up with
zeros. -/
structure Entry where
  sign : List Char := []
  marker : List Char := []
  body : List Char
  isNumeric : Bool := false

/-- The longest text that is written. -/
def longest : Nat := 0x100000000

namespace Entry

/-- The entry filled up to a width, on the side that the flags tell. -/
def padded (entry : Entry) (flags : List Char) (width : Nat) : Except Fault (List Char) :=
  let front := entry.sign ++ entry.marker
  let missing := width - (front.length + entry.body.length)
  if longest < missing then .error (.broken .memory)
  else if flags.contains '-' then .ok (front ++ entry.body ++ List.replicate missing ' ')
  else if entry.isNumeric && flags.contains '0' then
    .ok (front ++ List.replicate missing '0' ++ entry.body)
  else .ok (List.replicate missing ' ' ++ front ++ entry.body)

/-- The sign of a number: positive ones have the one that the flags tell. -/
def signOf (flags : List Char) (negative : Bool) : List Char :=
  if negative then ['-']
  else if flags.contains '+' then ['+']
  else if flags.contains ' ' then [' ']
  else []

/-- A text, cut off at the precision. -/
def ofText (precision : Option Nat) (text : List Char) : Entry :=
  { body := match precision with
      | some count => text.take count
      | none => text }

/-- The conversions of integers that are written in another base than ten, with
the base. -/
def baseOf? (conversion : Char) : Option Nat :=
  if conversion = 'o' then some 8
  else if conversion = 'x' ∨ conversion = 'X' then some 16
  else none

/-- An integer with as many digits as the precision tells, at least. In another
base than ten it may have a marker. -/
def ofInt (flags : List Char) (precision : Nat) (conversion : Char) (n : Int) : Entry :=
  let base := baseOf? conversion
  let digits := Nat.toDigits (base.getD 10) n.natAbs
  let digits := List.replicate (precision - digits.length) '0' ++ digits
  { sign := signOf flags (n < 0)
    marker := if base.isSome && flags.contains '#' then ['0', conversion] else []
    body := if conversion = 'X' then digits.map Char.toUpper else digits
    isNumeric := true }

/-- The letters of a number that is not finite, or its digits. -/
def magnitudeText (flags : List Char) (precision : Nat) (conversion : Char) :
    Binary64 → List Char
  | .nan => "nan".toList
  | .signed _ magnitude =>
    let keepPoint := flags.contains '#'
    if magnitude.isInfinite then "inf".toList
    else if conversion = 'f' then Decimal.fixedText keepPoint magnitude precision
    else if conversion = 'e' then Decimal.scientificText keepPoint magnitude precision
    else Decimal.generalText keepPoint magnitude precision

/-- A binary64 number. A capital conversion has capital letters. -/
def ofBinary64 (flags : List Char) (precision : Nat) (conversion : Char) (x : Binary64) : Entry :=
  let text := magnitudeText flags precision conversion.toLower x
  { sign := signOf flags x.isNegative
    body := if conversion.isUpper then text.map Char.toUpper else text
    isNumeric := true }

end Entry

/-- The integer that a value is written as. Decimal conversions drop the fraction
of a number. -/
def integerOf (conversion : Char) (value : Value) : Except Fault Int :=
  match value.scalar? with
  | some (.int n) => .ok n
  | some (.float x) =>
    if (Entry.baseOf? conversion).isSome then .error .refused
    else if x.isFinite then .ok x.truncate
    else .error .undetailed
  | _ => .error .refused

/-- The character that a value is written as: a text of one, or the one with a
number. -/
def characterOf (value : Value) : Except Fault Char :=
  match value with
  | .text s =>
    match s.toList with
    | [c] => .ok c
    | _ => .error .refused
  | value => do
    let n ← value.toInt
    if n < 0 ∨ 0x110000 ≤ n then .error .undetailed else .ok (Char.ofNat n.toNat)

/-- What a conversion makes of a value. -/
def convert (flags : List Char) (precision : Option Nat) (conversion : Char) (value : Value) :
    Except Fault Entry :=
  match conversion with
  | 's' => .ok (Entry.ofText precision value.shown.toList)
  | 'r' => .ok (Entry.ofText precision value.quoted.toList)
  | 'a' => .ok (Entry.ofText precision (value.quoted.toList.flatMap Text.escapeForeign))
  | 'd' | 'i' | 'u' | 'o' | 'x' | 'X' => do
    let n ← integerOf conversion value
    if 0x7FFFFFFC < precision.getD 0 then .error .undetailed
    else .ok (Entry.ofInt flags (precision.getD 0) conversion n)
  | 'e' | 'E' | 'f' | 'F' | 'g' | 'G' => do
    let x ← value.toBinary64
    .ok (Entry.ofBinary64 flags (precision.getD 6) conversion x)
  | 'c' => do
    let c ← characterOf value
    .ok { body := [c] }
  | _ => .error .undetailed

/-- A count of characters, and whether the value has been used. A count that is
taken is the value itself, which must be an integer and not have been used. -/
def count (limit : Int) (value : Value) (used : Bool) :
    Option Extent → Except Fault (Option Int × Bool)
  | none => .ok (none, used)
  | some (.written n) => if limit < n then .error .undetailed else .ok (some n, used)
  | some .taken => do
    if used then .error .refused
    else
      let n ← value.toInt
      if n < -limit - 1 ∨ limit < n then .error .undetailed else .ok (some n, true)

/-- The text at a place, which uses the value, so that it must not have been used
before. A negative width means that the entry stands on the left. -/
def fillPlace (place : Place) (value : Value) (used : Bool) : Except Fault (List Char) := do
  let (width, used) ← count 0x7FFFFFFFFFFFFFFF value used place.width
  let (precision, used) ← count 0x7FFFFFFF value used place.precision
  let flags := if width.getD 0 < 0 then '-' :: place.flags else place.flags
  match place.conversion with
  | none => .error .undetailed
  | some conversion =>
    if used then .error .refused
    else
      let entry ← convert flags (precision.map Int.toNat) conversion value
      entry.padded flags (width.getD 0).natAbs

/-- Whether brackets at the front of a text are closed, where some are open. -/
def closes : Nat → List Char → Bool
  | _, [] => false
  | opened, c :: rest =>
    if c = ')' then
      match opened with
      | 0 => true
      | opened + 1 => closes opened rest
    else if c = '(' then closes (opened + 1) rest
    else closes opened rest

/-- Writes a value into what is left of a template. -/
def fillFrom (value : Value) (used : Bool) : List Char → Except Fault (List Char)
  | [] => if used || value.items?.isSome then .ok [] else .error .refused
  | c :: rest =>
    if c ≠ '%' then do .ok (c :: (← fillFrom value used rest))
    else
      match rest with
      | '%' :: rest => do .ok ('%' :: (← fillFrom value used rest))
      | '(' :: rest =>
        if value.items?.isSome && !closes 0 rest then .error .undetailed else .error .refused
      | rest => do
        let text ← fillPlace (Place.read rest).1 value used
        .ok (text ++ (← fillFrom value true (Place.read rest).2))
termination_by template => template.length
decreasing_by
  · simp
  · simp only [List.length_cons]
    omega
  · have shorter := Place.length_read_le rest
    simp only [List.length_cons]
    omega

def fill (template : String) (value : Value) : Except Fault String :=
  (fillFrom value false template.toList).map String.ofList

end Template

end Calculator
