/-!
# Templates

A template is a text with places into which a value is written. A place starts
with `%`; it may go on with flags, the width, a point with the precision, and a
letter for the size, and ends with the letter of a conversion. `Place.read` takes
a place apart; whether it can be filled is decided when it is filled.
-/

namespace Calculator

namespace Template

/-- A count of characters: written in the template, or taken from the value. -/
inductive Extent
  | written (count : Nat)
  | taken
deriving DecidableEq

/-- A place of a template. Without a conversion it is incomplete. -/
structure Place where
  flags : List Char
  width : Option Extent
  precision : Option Extent
  conversion : Option Char
deriving DecidableEq

def isFlag (c : Char) : Bool := ['-', '+', ' ', '#', '0'].contains c

/-- The letters for the size of a number, which mean nothing here. -/
def isSizeLetter (c : Char) : Bool := ['h', 'l', 'L'].contains c

/-- The digits at the front of a text as a count. -/
def countOf (text : List Char) : Nat := Nat.ofDigitChars 10 (text.takeWhile Char.isDigit) 0

namespace Place

/-- The width at the front of a text, and what follows it. -/
def readWidth : List Char → Option Extent × List Char
  | [] => (none, [])
  | c :: rest =>
    if c = '*' then (some .taken, rest)
    else if c.isDigit then (some (.written (countOf (c :: rest))), rest.dropWhile Char.isDigit)
    else (none, c :: rest)

/-- The precision at the front of a text, and what follows it. A point without a
count behind it stands for the precision zero. -/
def readPrecision : List Char → Option Extent × List Char
  | [] => (none, [])
  | c :: rest =>
    if c = '.' then
      match rest with
      | '*' :: rest => (some .taken, rest)
      | rest => (some (.written (countOf rest)), rest.dropWhile Char.isDigit)
    else (none, c :: rest)

/-- The text without a letter for the size at its front. -/
def skipSize : List Char → List Char
  | [] => []
  | c :: rest => if isSizeLetter c then rest else c :: rest

/-- The place at the front of a text, behind its `%`, and what follows it. -/
def read (text : List Char) : Place × List Char :=
  let flags := text.takeWhile isFlag
  let (width, text) := readWidth (text.dropWhile isFlag)
  let (precision, text) := readPrecision text
  match skipSize text with
  | [] => (⟨flags, width, precision, none⟩, [])
  | c :: rest => (⟨flags, width, precision, some c⟩, rest)

theorem length_dropWhile_le (p : Char → Bool) (text : List Char) :
    (text.dropWhile p).length ≤ text.length :=
  (List.dropWhile_sublist p).length_le

theorem length_readWidth_le (text : List Char) : (readWidth text).2.length ≤ text.length := by
  cases text with
  | nil => simp [readWidth]
  | cons c rest =>
    have shorter := length_dropWhile_le Char.isDigit rest
    simp only [readWidth]
    split
    · simp
    · split
      · simp only [List.length_cons]
        omega
      · simp

theorem length_readPrecision_le (text : List Char) :
    (readPrecision text).2.length ≤ text.length := by
  cases text with
  | nil => simp [readPrecision]
  | cons c rest =>
    simp only [readPrecision]
    split
    · split
      · simp only [List.length_cons]
        omega
      · have shorter := length_dropWhile_le Char.isDigit rest
        simp only [List.length_cons]
        omega
    · simp

theorem length_skipSize_le (text : List Char) : (skipSize text).length ≤ text.length := by
  cases text with
  | nil => simp [skipSize]
  | cons c rest =>
    simp only [skipSize]
    split <;> simp

/-- What follows a place is no longer than what the place was read from. -/
theorem length_read_le (text : List Char) : (read text).2.length ≤ text.length := by
  have first := length_dropWhile_le isFlag text
  have second := length_readWidth_le (text.dropWhile isFlag)
  have third := length_readPrecision_le (readWidth (text.dropWhile isFlag)).2
  have fourth := length_skipSize_le (readPrecision (readWidth (text.dropWhile isFlag)).2).2
  simp only [read]
  split
  · simp
  · rename_i c rest skipped
    rw [skipped, List.length_cons] at fourth
    simp only
    omega

end Place

end Template

end Calculator
