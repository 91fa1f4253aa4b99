import Calculator.Binary64.Summation
import Calculator.Value.Arithmetic

/-!
# Samples

Statistics of a row of values. Lists in the row are laid out one after the
other, if all have the same shape. Integers that fit into a machine word are
summed as words and wrap around, unless some of them need a sign bit and others
may not have one; with an integer larger than any word the numbers are added one
by one, exactly as long as they are integers; all other statistics use binary64
numbers.
-/

namespace Calculator

/-- The numbers of which a statistic is computed: machine words with or without
sign, binary64 numbers, complex numbers, or numbers added one by one because an
integer among them exceeds every word. -/
inductive Sample
  | words (hasSign : Bool) (numbers : List Int)
  | doubles (numbers : List Binary64)
  | complexes (numbers : List ComplexNumber)
  | unbounded (numbers : List Scalar)

namespace Value

/-- The number of entries of a list along each of its dimensions. -/
abbrev Shape := List Nat

mutual

/-- The shape of a value with its entries in order. -/
def entries : Value → Except Fault (Shape × List Value)
  | arguments items => entriesOfAll items
  | list items => entriesOfAll items
  | entry => .ok ([], [entry])

/-- The shape and the entries of a list; its items have to be of one shape. -/
def entriesOfAll : List Value → Except Fault (Shape × List Value)
  | [] => .ok ([0], [])
  | [item] => do
    let (shape, found) ← entries item
    .ok (1 :: shape, found)
  | item :: rest => do
    let (shape, found) ← entries item
    match ← entriesOfAll rest with
    | (count :: common, others) =>
      if shape = common then .ok ((count + 1) :: common, found ++ others) else .error .undetailed
    | ([], _) => .error .undetailed

end

end Value

namespace ComplexNumber

def sum (numbers : List ComplexNumber) : ComplexNumber :=
  let total (part : ComplexNumber → Binary64) : Binary64 :=
    0 + Binary64.pairwiseSum .four (numbers.map part)
  ⟨total ComplexNumber.re, total ComplexNumber.im⟩

/-- A complex number divided by a count: multiplied by its reciprocal, after each
part has received the other one times zero, which matters where that is not
finite. -/
def share (z : ComplexNumber) (count : Nat) : ComplexNumber :=
  let ratio := (0 : Binary64) / Binary64.ofInt count
  let scale := 1 / (Binary64.ofInt count + 0 * ratio)
  ⟨(z.re + z.im * ratio) * scale, (z.im - z.re * ratio) * scale⟩

end ComplexNumber

namespace Sample

/-- The kinds of machine words and of numbers that are none. Truth values fit into
words of either kind. -/
inductive Storage
  | truth
  | signedWord
  | unsignedWord
  | double
  | complex
  | unbounded
deriving DecidableEq

/-- How a number is stored: integers as words with a sign if they fit, else as
words without one if they fit. -/
def storage : Value → Storage
  | .bool _ => .truth
  | value =>
    match value.scalar? with
    | some (.float _) => .double
    | some (.complex _) => .complex
    | some (.int n) =>
      if -0x8000000000000000 ≤ n ∧ n < 0x8000000000000000 then .signedWord
      else if 0 ≤ n ∧ n < 0x10000000000000000 then .unsignedWord
      else .unbounded
    | none => .unbounded

/-- Numbers as a sample, by what is needed to store all of them. Words of both
kinds have no word in common and are stored as binary64 numbers. -/
def ofNumbers (numbers : List (Storage × Scalar)) : Except Fault Sample :=
  let has (kind : Storage) : Bool := numbers.any fun number => number.1 == kind
  let scalars := numbers.map Prod.snd
  let ints := scalars.filterMap fun
    | .int n => some n
    | _ => none
  if has .unbounded then .ok (.unbounded scalars)
  else if has .complex then (scalars.mapM Scalar.toComplex).map complexes
  else if has .double || (has .signedWord && has .unsignedWord) || numbers.isEmpty then
    (scalars.mapM Scalar.toBinary64).map doubles
  else .ok (.words (!has .unsignedWord) ints)

/-- The greatest number of dimensions of a sample. -/
def mostDimensions : Nat := 64

/-- The arguments of a statistic as a sample: their entries have to be
numbers. -/
def ofValues (values : List Value) : Except Fault Sample := do
  let (shape, found) ← Value.entriesOfAll values
  if mostDimensions < shape.length then throw .undetailed
  let numbers ← found.mapM fun value =>
    match value.scalar? with
    | some number => .ok (storage value, number)
    | none => .error .refused
  ofNumbers numbers

/-- The sum of words, which wraps around. -/
def wordSum (hasSign : Bool) (numbers : List Int) : Int :=
  let total := numbers.foldl (· + ·) 0
  if hasSign then total.bmod 0x10000000000000000 else total % 0x10000000000000000

/-- The sum of numbers of all kinds, one by one. -/
def unboundedSum : List Scalar → Except Fault Value
  | [] => .ok (.int 0)
  | first :: rest =>
    rest.foldlM (fun total number => total.add (.ofScalar number)) (.ofScalar first)

/-- A sum divided by the count of its terms; of a complex quotient its real
part. -/
def shareOf (total : Value) (count : Nat) : Except Fault Binary64 :=
  match total.scalar? with
  | some (.complex z) => .ok (z.share count).re
  | _ => do .ok ((← total.toBinary64) / Binary64.ofInt count)

def meanOf (numbers : List Binary64) : Binary64 :=
  Binary64.sum numbers / Binary64.ofInt numbers.length

def wordMean (numbers : List Int) : Binary64 :=
  Binary64.blockwiseSum (numbers.map Binary64.ofInt) / Binary64.ofInt numbers.length

/-- The mean of the squared distances from a number. -/
def spreadAround (center : Binary64) (numbers : List Binary64) : Binary64 :=
  meanOf (numbers.map fun x => (x - center) * (x - center))

/-- The square of the absolute value of a number, as a product with its
conjugate. -/
def square (value : Value) : Except Fault Value :=
  match value.scalar? with
  | some (.complex z) => .ok (.complex (z * z.conj))
  | _ => value.mul value

/-- The sum; of complex numbers its real part. -/
def sum : Sample → Except Fault Binary64
  | words hasSign numbers => .ok (Binary64.ofInt (wordSum hasSign numbers))
  | doubles numbers => .ok (Binary64.sum numbers)
  | complexes numbers => .ok (ComplexNumber.sum numbers).re
  | unbounded numbers => do (← unboundedSum numbers).toBinary64

/-- The mean; of complex numbers its real part. -/
def mean : Sample → Except Fault Binary64
  | words _ numbers => .ok (wordMean numbers)
  | doubles numbers => .ok (meanOf numbers)
  | complexes numbers => .ok ((ComplexNumber.sum numbers).share numbers.length).re
  | unbounded numbers => do shareOf (← unboundedSum numbers) numbers.length

/-- The mean of the squared distances from the mean. -/
def variance : Sample → Except Fault Binary64
  | words _ numbers => .ok (spreadAround (wordMean numbers) (numbers.map Binary64.ofInt))
  | doubles numbers => .ok (spreadAround (meanOf numbers) numbers)
  | complexes numbers =>
    let mean := (ComplexNumber.sum numbers).share numbers.length
    .ok (meanOf (numbers.map fun z =>
      let distance := z - mean
      distance.re * distance.re + distance.im * distance.im))
  | unbounded numbers => do
    let mean ← (← unboundedSum numbers).div (.int numbers.length)
    let squares ← numbers.mapM fun number => do square (← (Value.ofScalar number).sub mean)
    let total ← unboundedSum (squares.filterMap Value.scalar?)
    shareOf total numbers.length

def deviation (sample : Sample) : Except Fault Binary64 := sample.variance.map Binary64.sqrt

end Sample

end Calculator
