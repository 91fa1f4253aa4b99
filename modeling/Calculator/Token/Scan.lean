import Calculator.Text.Blank
import Calculator.Token.Basic
import Calculator.Token.Numeral

/-!
# From text to tokens

`Token.next` skips white space and takes the longest lexeme that starts there.
`Token.scan` repeats it to the end of the text or to the first character that
starts no lexeme.
-/

namespace Calculator

/-- The brackets that open a group, each with the one that closes it. -/
def bracketPairs : List (Char × Char) := [('(', ')'), ('[', ']'), ('{', '}')]

def isBracket (c : Char) : Bool :=
  bracketPairs.any fun pair => c == pair.1 || c == pair.2

/-- The spellings of operators, longer ones first. -/
def operatorSpellings : List (List Char) :=
  [['d', 'e', 'g'],
    ['/', '/'], ['=', '='], ['!', '='], ['<', '='], ['>', '='],
    ['+'], ['-'], ['*'], ['/'], ['^'], ['%'], ['='], ['<'], ['>'], ['!'], [',']]

/-- Whether a character may stand inside an identifier. -/
def isWordChar (c : Char) : Bool := c.isAlphanum || c == '_'

/-- A piece of text that forms a token. -/
structure Lexeme where
  kind : TokenKind
  chars : List Char
  value : Option Number := none

namespace Lexeme

/-- Whether an operator stands at the front of a text. One spelled with letters
must not run on into a longer word. -/
def startsWith (spelling text : List Char) : Bool :=
  spelling.isPrefixOf text &&
    !(spelling.any Char.isAlpha && (text.drop spelling.length).head?.any isWordChar)

def operator? (text : List Char) : Option Lexeme :=
  (operatorSpellings.find? (startsWith · text)).map fun spelling => ⟨.operator, spelling, none⟩

def bracket? : List Char → Option Lexeme
  | c :: _ => if isBracket c then some ⟨.bracket, [c], none⟩ else none
  | [] => none

def number? (text : List Char) : Option Lexeme :=
  (Numeral.read? text).map fun reading =>
    ⟨.number, reading.1.chars, some reading.1.value⟩

def identifier? : List Char → Option Lexeme
  | c :: rest =>
    if c.isAlpha then some ⟨.identifier, c :: rest.takeWhile isWordChar, none⟩ else none
  | [] => none

/-- The lexeme at the front of a text. -/
def read? (text : List Char) : Option Lexeme :=
  (operator? text).orElse fun _ =>
    (bracket? text).orElse fun _ =>
      (number? text).orElse fun _ => identifier? text

end Lexeme

/-- A character that starts no token, and where it stands. -/
structure Unrecognized where
  character : Char
  position : Nat
deriving DecidableEq

/-- The outcome of looking for one token: none is left; a token, the position
behind it and the text that follows; or a character that starts none. -/
inductive Scan
  | finished
  | found (token : Token) (stop : Nat) (rest : List Char)
  | stuck (error : Unrecognized)

namespace Token

/-- The first token of a text that starts at the given position. -/
def next (position : Nat) (text : List Char) : Scan :=
  let start := position + (text.takeWhile Text.isBlank).length
  match text.dropWhile Text.isBlank with
  | [] => .finished
  | c :: rest =>
    match Lexeme.read? (c :: rest) with
    | none => .stuck ⟨c, start⟩
    | some lexeme =>
      let value := lexeme.value.map Literal.number
      .found ⟨lexeme.kind, String.ofList lexeme.chars, value, start, none, false⟩
        (start + lexeme.chars.length) (rest.drop (lexeme.chars.length - 1))

theorem length_lt_of_next {position : Nat} {text : List Char} {token : Token} {stop : Nat}
    {rest : List Char} (found : next position text = .found token stop rest) :
    rest.length < text.length := by
  unfold next at found
  simp only at found
  split at found
  · cases found
  · rename_i c tail dropped
    have shorter : (c :: tail).length ≤ text.length := by
      rw [← dropped]
      exact (List.dropWhile_sublist _).length_le
    split at found
    · cases found
    · cases found
      simp only [List.length_drop, List.length_cons] at shorter ⊢
      omega

/-- The tokens of a text that starts at the given position, up to the first
character that starts none. -/
def scan (position : Nat) (text : List Char) : List Token × Option Unrecognized :=
  match h : next position text with
  | .finished => ([], none)
  | .stuck error => ([], some error)
  | .found token stop rest =>
    have := length_lt_of_next h
    let (tokens, error) := scan stop rest
    (token :: tokens, error)
termination_by text.length

/-- All tokens of a text, or the first character that starts none. Integers may have any
number of digits: a limit of the host on how many of them it reads or writes is left out. -/
def ofText (source : String) : Except Unrecognized (List Token) :=
  match scan 0 source.toList with
  | (tokens, none) => .ok tokens
  | (_, some error) => .error error

end Token

end Calculator
