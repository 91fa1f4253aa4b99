import Calculator.Proofs.Token.Numeral
import Calculator.Proofs.Token.Role

/-!
# Pieces with spaces between them

A lexeme stands alone if it is read again wherever a space or the end of the text
follows it (`Lexeme.Stands`). Operators, names and decimal numerals do. A text of
such lexemes with single spaces between them is cut into exactly these
(`Token.scan_spaced`).
-/

namespace Calculator

namespace Lexeme

/-- A lexeme that is read in front of a space and at the end of a text. -/
structure Stands (lexeme : Lexeme) : Prop where
  visible : lexeme.chars.head?.any (fun c => !Text.isBlank c) = true
  read : ∀ rest, Delimited rest → read? (lexeme.chars ++ rest) = some lexeme

/-- An operator is not the beginning of a longer one if a space follows. -/
theorem stands_operator {spelling : List Char} (spelled : spelling ∈ operatorSpellings) :
    Stands ⟨.operator, spelling, none⟩ := by
  have visible : ∀ spelling ∈ operatorSpellings,
      spelling.head?.any (fun c => !Text.isBlank c) = true := by decide
  have known : ∀ rest, Delimited rest → operator? (spelling ++ rest) =
      some ⟨.operator, spelling, none⟩ := by
    intro rest delimited
    simp only [operatorSpellings, List.mem_cons, List.not_mem_nil, or_false] at spelled
    rcases spelled with rfl | rfl | rfl | rfl | rfl | rfl | rfl | rfl | rfl | rfl | rfl | rfl |
      rfl | rfl | rfl | rfl | rfl <;> rcases delimited with rfl | ⟨tail, rfl⟩ <;> rfl
  refine ⟨visible spelling spelled, fun rest delimited => ?_⟩
  rw [read?, known rest delimited]
  rfl

/-- Only `deg` is an operator that starts with a letter. -/
theorem operator?_eq_none {first : Char} {rest : List Char}
    (letter : first.isAlpha = true ∨ first.isDigit = true)
    (other : startsWith ['d', 'e', 'g'] (first :: rest) = false) :
    operator? (first :: rest) = none := by
  have symbols : ∀ spelling ∈ operatorSpellings, spelling = ['d', 'e', 'g'] ∨
      spelling.head?.any (fun c => !c.isAlpha && !c.isDigit) = true := by decide
  unfold operator?
  rw [Option.map_eq_none_iff, List.find?_eq_none]
  intro spelling member starts
  rcases symbols spelling member with rfl | symbol
  · rw [other] at starts
    cases starts
  · cases spelling with
    | nil => cases symbol
    | cons head tail =>
        simp only [startsWith, List.isPrefixOf, Bool.and_eq_true, beq_iff_eq] at starts
        obtain rfl := starts.1.1
        rcases letter with known | known <;> simp [known] at symbol

theorem isBracket_eq_false {c : Char} (letter : c.isAlpha = true ∨ c.isDigit = true) :
    isBracket c = false := by
  have different : ∀ d : Char, d.isAlpha = false → d.isDigit = false → c ≠ d := by
    rintro d noLetter noDigit rfl
    rcases letter with known | known
    · exact absurd known (by simp [noLetter])
    · exact absurd known (by simp [noDigit])
  simp [isBracket, bracketPairs, different '(' rfl rfl, different ')' rfl rfl,
    different '[' rfl rfl, different ']' rfl rfl, different '\x7b' rfl rfl,
    different '\x7d' rfl rfl]

theorem bracket?_eq_none {first : Char} {rest : List Char}
    (letter : first.isAlpha = true ∨ first.isDigit = true) : bracket? (first :: rest) = none := by
  rw [bracket?, isBracket_eq_false letter, if_neg Bool.false_ne_true]

theorem isDigit_of_isAlpha {c : Char} (letter : c.isAlpha = true) : c.isDigit = false := by
  simp only [Char.isAlpha, Char.isUpper, Char.isLower, Bool.or_eq_true, Bool.and_eq_true,
    decide_eq_true_eq] at letter
  simp only [Char.isDigit, Bool.and_eq_false_iff, decide_eq_false_iff_not]
  rcases letter with ⟨low, -⟩ | ⟨low, -⟩
  · exact .inr fun high => absurd (UInt32.le_trans low high) (by decide)
  · exact .inr fun high => absurd (UInt32.le_trans low high) (by decide)

theorem number?_eq_none {first : Char} {rest : List Char} (letter : first.isAlpha = true) :
    number? (first :: rest) = none := by
  have noDigit := isDigit_of_isAlpha letter
  have noZero : first ≠ '0' := by
    rintro rfl
    cases letter
  have noPoint : first ≠ '.' := by
    rintro rfl
    cases letter
  have based : Numeral.readBased? (first :: rest) = none := by
    unfold Numeral.readBased?
    split
    · rename_i same
      exact absurd (List.cons.inj same).1 noZero
    · rfl
  have digits : Numeral.readDigits? (first :: rest) = none := by
    unfold Numeral.readDigits?
    simp only [List.takeWhile_cons, List.dropWhile_cons, noDigit, Bool.false_eq_true, ↓reduceIte]
    split
    · rename_i same
      exact absurd (List.cons.inj same).1 noPoint
    · rfl
  rw [number?, Numeral.read?, based, Numeral.readDecimal?, digits]
  rfl

theorem isBlank_eq_false {c : Char} (known : c.isAlpha = true ∨ c.isDigit = true) :
    Text.isBlank c = false := by
  have bounds : 48 ≤ c.toNat ∧ c.toNat ≤ 122 := by
    simp only [Char.isAlpha, Char.isUpper, Char.isLower, Char.isDigit, Bool.or_eq_true,
      Bool.and_eq_true, decide_eq_true_eq, ge_iff_le, UInt32.le_iff_toNat_le] at known
    have code : c.toNat = c.val.toNat := rfl
    have codes : ('A'.val.toNat = 65 ∧ 'Z'.val.toNat = 90) ∧
        ('a'.val.toNat = 97 ∧ 'z'.val.toNat = 122) ∧ '0'.val.toNat = 48 ∧ '9'.val.toNat = 57 := by
      decide
    omega
  simp only [Text.isBlank, Bool.or_eq_false_iff, Bool.and_eq_false_iff, decide_eq_false_iff_not,
    beq_eq_false_iff_ne]
  omega

/-- A name other than `deg` does not start with the operator. -/
theorem startsWith_deg_eq_false {first : Char} {others rest : List Char}
    (words : ∀ c ∈ others, isWordChar c = true)
    (different : String.ofList (first :: others) ≠ "deg") (delimited : Delimited rest) :
    startsWith ['d', 'e', 'g'] (first :: (others ++ rest)) = false := by
  cases starts : startsWith ['d', 'e', 'g'] (first :: (others ++ rest)) with
  | false => rfl
  | true =>
      match others with
      | [] =>
          rcases delimited with rfl | ⟨tail, rfl⟩ <;> simp [startsWith, List.isPrefixOf] at starts
      | [_] =>
          rcases delimited with rfl | ⟨tail, rfl⟩ <;> simp [startsWith, List.isPrefixOf] at starts
      | second :: third :: [] =>
          simp only [startsWith, List.cons_append, List.isPrefixOf, Bool.and_eq_true,
            beq_iff_eq] at starts
          obtain ⟨⟨rfl, rfl, rfl, -⟩, -⟩ := starts
          exact absurd rfl different
      | second :: third :: fourth :: others =>
          have word := words fourth (by simp)
          simp [startsWith, word] at starts

theorem isWordChar_of_delimited {rest : List Char} (delimited : Delimited rest) :
    ∀ c ∈ rest.head?, isWordChar c = false := by
  intro c head
  rw [delimited.head c head]
  rfl

/-- A name is not the beginning of a longer one if a space follows. -/
theorem stands_name {name : List Char} (named : isName (String.ofList name) = true) :
    Stands ⟨.identifier, name, none⟩ := by
  unfold isName at named
  rw [String.toList_ofList] at named
  cases name with
  | nil => cases named
  | cons first others =>
      simp only [Bool.and_eq_true, List.all_eq_true, bne_iff_ne] at named
      obtain ⟨⟨letter, words⟩, different⟩ := named
      have visible := isBlank_eq_false (.inl letter)
      refine ⟨by simp [visible], fun rest delimited => ?_⟩
      have stop := isWordChar_of_delimited delimited
      have other := startsWith_deg_eq_false words different delimited
      have known : identifier? (first :: (others ++ rest)) =
          some ⟨.identifier, first :: others, none⟩ := by
        rw [identifier?, if_pos letter, takeWhile_append_stop words stop]
      rw [read?, List.cons_append, operator?_eq_none (.inl letter) other,
        bracket?_eq_none (.inl letter), number?_eq_none letter, known]
      rfl

/-- A decimal numeral is read where it cannot go on. -/
theorem read?_numeral {whole : List Char} {fraction : Option (List Char)}
    {exponent : Option Exponent} (written : Numeral.Written whole fraction exponent)
    {rest : List Char} (ended : Numeral.Ended rest) :
    read? ((Numeral.decimal whole fraction exponent).chars ++ rest) =
      some ⟨.number, (Numeral.decimal whole fraction exponent).chars,
        some (Numeral.decimal whole fraction exponent).value⟩ := by
  obtain ⟨first, others, rfl⟩ := List.exists_cons_of_ne_nil written.nonempty
  have digit := written.whole first List.mem_cons_self
  have other : ∀ tail, startsWith ['d', 'e', 'g'] (first :: tail) = false := by
    intro tail
    have letter : first ≠ 'd' := by
      rintro rfl
      cases digit
    simp [startsWith, List.isPrefixOf, letter.symm]
  have read := Numeral.read?_decimal written ended
  have front : (Numeral.decimal (first :: others) fraction exponent).chars ++ rest =
      first :: (others ++ (fraction.elim [] ('.' :: ·)) ++ (exponent.elim [] Exponent.chars) ++
        rest) := by
    simp [Numeral.chars]
  rw [front] at read ⊢
  rw [read?, operator?_eq_none (.inr digit) (other _), bracket?_eq_none (.inr digit), number?, read]
  rfl

/-- A decimal numeral is not the beginning of a longer one if a space follows. -/
theorem stands_numeral {whole : List Char} {fraction : Option (List Char)}
    {exponent : Option Exponent} (written : Numeral.Written whole fraction exponent) :
    Stands ⟨.number, (Numeral.decimal whole fraction exponent).chars,
      some (Numeral.decimal whole fraction exponent).value⟩ := by
  refine ⟨?_, fun rest delimited => read?_numeral written delimited.ended⟩
  obtain ⟨first, others, rfl⟩ := List.exists_cons_of_ne_nil written.nonempty
  have visible := isBlank_eq_false (.inr (written.whole first List.mem_cons_self))
  simp [Numeral.chars, visible]

/-- Lexemes with single spaces between them. -/
def spaced (lexemes : List Lexeme) : List Char := [' '].intercalate (lexemes.map Lexeme.chars)

end Lexeme

namespace Token

def unplaced (token : Token) : Token := { token with position := 0 }

def ofLexeme (position : Nat) (lexeme : Lexeme) : Token :=
  ⟨lexeme.kind, String.ofList lexeme.chars, lexeme.value.map .number, position, none, false⟩

/-- White space in front of a text only moves its first token. -/
theorem next_blank {gap : List Char} (blank : ∀ c ∈ gap, Text.isBlank c = true)
    (position : Nat) (text : List Char) :
    next position (gap ++ text) = next (position + gap.length) text := by
  have start : position + (gap ++ text.takeWhile Text.isBlank).length =
      position + gap.length + (text.takeWhile Text.isBlank).length := by
    rw [List.length_append, Nat.add_assoc]
  unfold next
  rw [List.takeWhile_append_of_pos blank, List.dropWhile_append_of_pos blank, start]

theorem next_of_stands {lexeme : Lexeme} (stands : lexeme.Stands) (position : Nat)
    {rest : List Char} (delimited : Delimited rest) :
    next position (lexeme.chars ++ rest) =
      .found (ofLexeme position lexeme) (position + lexeme.chars.length) rest := by
  have visible := stands.visible
  have read := stands.read rest delimited
  rcases front : lexeme.chars with _ | ⟨first, others⟩
  · rw [front] at visible
    cases visible
  · rw [front] at visible read
    have shown : Text.isBlank first = false := by simpa using visible
    unfold next
    simp only [List.cons_append] at read
    simp only [List.cons_append, List.takeWhile_cons, List.dropWhile_cons, shown,
      Bool.false_eq_true, ↓reduceIte, List.length_nil, Nat.add_zero, read, ofLexeme, front,
      List.length_cons, Nat.add_sub_cancel, List.drop_left]

/-- White space in front of a text moves its tokens to the right. -/
theorem scan_blank {gap : List Char} (blank : ∀ c ∈ gap, Text.isBlank c = true)
    (position : Nat) (text : List Char) :
    scan position (gap ++ text) = scan (position + gap.length) text := by
  have same := next_blank blank position text
  cases found : next (position + gap.length) text with
  | finished => rw [scan_of_finished found, scan_of_finished (same.trans found)]
  | found token stop rest => rw [scan_of_found found, scan_of_found (same.trans found)]
  | stuck error => rw [scan_of_stuck found, scan_of_stuck (same.trans found)]

/-- Lexemes with spaces between them are read one by one. -/
theorem scan_spaced {lexemes : List Lexeme} (stand : ∀ lexeme ∈ lexemes, lexeme.Stands)
    (position : Nat) :
    ∃ tokens, scan position (Lexeme.spaced lexemes) = (tokens, none) ∧
      tokens.map unplaced = lexemes.map (ofLexeme 0) := by
  induction lexemes generalizing position with
  | nil =>
      refine ⟨[], scan_of_finished ?_, rfl⟩
      rfl
  | cons lexeme others ih =>
      have front := stand lexeme List.mem_cons_self
      obtain ⟨tokens, scanned, same⟩ :=
        ih (fun other member => stand other (List.mem_cons_of_mem _ member))
          (position + lexeme.chars.length + 1)
      refine ⟨ofLexeme position lexeme :: tokens, ?_, by simp [same, unplaced, ofLexeme]⟩
      cases others with
      | nil =>
          have found := next_of_stands front position (.inl rfl)
          rw [List.append_nil] at found
          have text : Lexeme.spaced [lexeme] = lexeme.chars := by simp [Lexeme.spaced]
          have none : tokens = [] := by simpa using same
          rw [text, scan_of_found found, none, scan_of_finished rfl]
      | cons next rest =>
          have text : Lexeme.spaced (lexeme :: next :: rest) =
              lexeme.chars ++ ' ' :: Lexeme.spaced (next :: rest) := by
            simp [Lexeme.spaced]
          have blank : ∀ c ∈ [' '], Text.isBlank c = true :=
            List.forall_mem_singleton.mpr (by decide)
          have space := scan_blank blank (position + lexeme.chars.length)
            (Lexeme.spaced (next :: rest))
          rw [List.singleton_append, List.length_singleton, scanned] at space
          rw [text, scan_of_found (next_of_stands front position (.inr ⟨_, rfl⟩)), space]

end Token

end Calculator
