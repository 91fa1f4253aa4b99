import Calculator.Proofs.Token.Tiling

/-!
# Texts side by side

The tokens of a text do not depend on where it stands, apart from their places
(`Token.scan_add`). In front of a comma or a bracket a text may be cut: no lexeme of more
than one character contains any of these, so the tokens on the left are those of the left
part (`Token.scan_append`).
-/

namespace Calculator

namespace Token

/-- A token further to the right; what has no place in the text stays without one. -/
def moved (offset : Nat) (token : Token) : Token :=
  { token with
    position := if token.isSynthetic then token.position else token.position + offset }

theorem moved_classify (config : Config) (offset : Nat) (token : Token) :
    (token.moved offset).classify config = (token.classify config).moved offset := by
  unfold classify
  by_cases name : token.kind = .identifier
  · by_cases constant : config.isConstant token.lexeme = true
    · simp only [moved, name, constant, ↓reduceIte]
      rfl
    · simp only [moved, name, constant, Bool.false_eq_true, ↓reduceIte]
      rfl
  · simp only [moved, name, ↓reduceIte]

theorem moved_ofLexeme (position offset : Nat) (lexeme : Lexeme) :
    (ofLexeme position lexeme).moved offset = ofLexeme (position + offset) lexeme := by
  have placed : ¬ ((position : Int) < 0) := Int.not_lt.mpr (Int.natCast_nonneg _)
  simp [moved, ofLexeme, isSynthetic, placed]

end Token

namespace Scan

/-- What is found in a text that stands further to the right. -/
def moved (offset : Nat) : Scan → Scan
  | finished => finished
  | found token stop rest => found (token.moved offset) (stop + offset) rest
  | stuck error => stuck { error with position := error.position + offset }

theorem Munches.moved {position : Nat} {text : List Char} {scan : Scan}
    (munches : scan.Munches position text) (offset : Nat) :
    (scan.moved offset).Munches (position + offset) text := by
  cases munches with
  | finished blank => exact .finished blank
  | @found blanks rest lexeme split blank visible longest =>
      have later := @Munches.found (position + offset) _ _ _ _ split blank visible longest
      rw [Nat.add_right_comm, Nat.add_right_comm _ offset] at later
      rwa [Scan.moved, Token.moved_ofLexeme]
  | stuck split blank visible formless =>
      have later := @Munches.stuck (position + offset) _ _ _ _ split blank visible formless
      rwa [Nat.add_right_comm] at later

end Scan

namespace Token

variable {position stop : Nat} {text rest tail : List Char} {token : Token} {tokens : List Token}

/-- A text that stands further to the right has the same tokens, further to the right. -/
theorem scan_add (offset : Nat) (complete : scan position text = (tokens, none)) :
    scan (position + offset) text = (tokens.map (moved offset), none) := by
  fun_induction scan position text generalizing tokens with
  | case1 position text finished =>
      cases complete
      exact scan_of_finished (next_of_munches ((next_eq_iff.mp finished).moved offset))
  | case2 position text error stuck => cases complete
  | case3 position text token stop rest found shorter others error again ih =>
      cases complete
      rw [scan_of_found (next_of_munches ((next_eq_iff.mp found).moved offset)), ih again]
      rfl

end Token

/-- The characters that separate the parts of a call: brackets and the comma. -/
def separators : List Char := ',' :: bracketPairs.flatMap fun pair => [pair.1, pair.2]

theorem mem_separators_of_isBracket {c : Char} (bracket : isBracket c = true) :
    c ∈ separators := by
  obtain ⟨pair, member, same⟩ := List.any_eq_true.mp bracket
  refine List.mem_cons_of_mem _ (List.mem_flatMap.mpr ⟨pair, member, ?_⟩)
  simpa using same

theorem not_mem_separators_of_isWordChar {c : Char} (word : isWordChar c = true) :
    c ∉ separators := by
  have known : separators.all (fun c => !isWordChar c) = true := by decide
  intro member
  have wordless := List.all_eq_true.mp known c member
  rw [word] at wordless
  cases wordless

theorem Numeral.not_mem_separators {numeral : Numeral} (grammatical : numeral.Grammatical) :
    ∀ c ∈ numeral.chars, c ∉ separators := by
  intro c member
  cases grammatical with
  | @based marker base digits announced nonempty inside =>
      have marks : separators.all (fun c => baseOf? c == none) = true := by decide
      have digitless : separators.all (fun c => digitValue? c == none) = true := by decide
      intro separator
      rcases List.mem_cons.mp member with rfl | member
      · exact not_mem_separators_of_isWordChar (by decide) separator
      rcases List.mem_cons.mp member with rfl | member
      · have unannounced := List.all_eq_true.mp marks c separator
        rw [announced] at unannounced
        cases unannounced
      · have digit := (mem_alphabet_iff announced c).mp (inside c member)
        rw [isDigitOf, eq_of_beq (List.all_eq_true.mp digitless c separator)] at digit
        cases digit
  | decimal nonempty inside complete =>
      rcases isDigit_or_mem_of_mem_decimal inside complete c member with digit | mark
      · exact not_mem_separators_of_isWordChar (by simp [isWordChar, Char.isAlphanum, digit])
      · have marks : separators.all (fun c => !(['.', 'e', 'E', '+', '-'].contains c)) = true := by
          decide
        intro separator
        have other := List.all_eq_true.mp marks c separator
        rw [List.contains_iff_mem.mpr mark] at other
        cases other

/-- A lexeme of more than one character contains no separator. -/
theorem Lexeme.Formed.not_mem_separators {lexeme : Lexeme} (formed : lexeme.Formed)
    (long : 2 ≤ lexeme.chars.length) : ∀ c ∈ lexeme.chars, c ∉ separators := by
  cases formed with
  | @operator spelling spelled =>
      have known : operatorSpellings.all (fun spelling => decide (spelling.length < 2) ||
          spelling.all fun c => !separators.contains c) = true := by decide
      have separate := List.all_eq_true.mp known spelling spelled
      simpa [Nat.not_lt.mpr long] using separate
  | bracket => exact absurd long (by simp)
  | number grammatical => exact Numeral.not_mem_separators grammatical
  | @identifier first others letter words =>
      intro c member
      rcases List.mem_cons.mp member with rfl | member
      · exact not_mem_separators_of_isWordChar (by simp [isWordChar, Char.isAlphanum, letter])
      · exact not_mem_separators_of_isWordChar (words c member)

namespace Lexeme

/-- A character that stands inside no lexeme of more than one character. -/
def Divides (c : Char) : Prop :=
  ∀ lexeme : Lexeme, lexeme.Formed → 2 ≤ lexeme.chars.length → c ∉ lexeme.chars

theorem divides_of_mem_separators {c : Char} (separator : c ∈ separators) : Divides c :=
  fun _ formed long member => formed.not_mem_separators long c member separator

/-- What stands behind a character that divides lexemes does not change the longest one. -/
theorem Longest.append {lexeme : Lexeme} {text tail : List Char} (longest : lexeme.Longest text)
    (stop : ∀ c ∈ tail.head?, Divides c) : lexeme.Longest (text ++ tail) := by
  have inside : ∀ other : Lexeme, other.Fronts (text ++ tail) → other.Fronts text := by
    rintro other ⟨formed, front⟩
    refine ⟨formed, ?_⟩
    by_cases short : other.chars.length ≤ text.length
    · exact List.prefix_of_prefix_length_le front (List.prefix_append _ _) short
    · -- Otherwise the dividing character stands inside the other lexeme.
      obtain ⟨further, split⟩ := List.prefix_of_prefix_length_le (List.prefix_append text tail)
        front (Nat.le_of_not_le short)
      rw [← split] at front short
      have behind : further <+: tail := (List.prefix_append_right_inj text).mp front
      cases further with
      | nil => simp at short
      | cons c further =>
          obtain ⟨rest, rfl⟩ := behind
          obtain ⟨first, others, chars, -⟩ := longest.fronts.1.head
          have some : 1 ≤ text.length := by
            have within := longest.fronts.2.length_le
            rw [chars, List.length_cons] at within
            omega
          have long : 2 ≤ other.chars.length := by
            rw [← split, List.length_append, List.length_cons]
            omega
          exact absurd (by simp [← split]) (stop c rfl other formed long)
  obtain ⟨⟨formed, front⟩, greatest, operates⟩ := longest
  exact ⟨⟨formed, front.trans (List.prefix_append _ _)⟩,
    fun other fronts => greatest other (inside other fronts),
    fun other fronts => operates other (inside other fronts)⟩

end Lexeme

namespace Token

variable {position stop : Nat} {text rest tail : List Char} {token : Token} {tokens : List Token}

theorem next_append (found : next position text = .found token stop rest)
    (separated : ∀ c ∈ tail.head?, c ∈ separators) :
    next position (text ++ tail) = .found token stop (rest ++ tail) := by
  cases next_eq_iff.mp found with
  | @found blanks rest lexeme split blank visible longest =>
      refine next_of_munches (.found (by rw [split]; simp) blank visible ?_)
      rw [← List.append_assoc]
      exact longest.append fun c head => Lexeme.divides_of_mem_separators (separated c head)

/-- In front of a separator the tokens of a text are those of its parts. -/
theorem scan_append (complete : scan position text = (tokens, none))
    (separated : ∀ c ∈ tail.head?, c ∈ separators) :
    scan position (text ++ tail) = (tokens ++ (scan (position + text.length) tail).1,
      (scan (position + text.length) tail).2) := by
  fun_induction scan position text generalizing tokens with
  | case1 position text finished =>
      cases complete
      cases next_eq_iff.mp finished with
      | finished blank => exact scan_blank blank position tail
  | case2 position text error stuck => cases complete
  | case3 position text token stop rest found shorter others error again ih =>
      cases complete
      have length : stop + rest.length = position + text.length := by
        cases next_eq_iff.mp found with
        | found split =>
            rw [split]
            simp only [List.length_append]
            omega
      rw [scan_of_found (next_append found separated), ih again, length]
      rfl

theorem scan_of_longest {lexeme : Lexeme} (longest : lexeme.Longest (lexeme.chars ++ rest))
    (visible : ∀ c ∈ lexeme.chars.head?, Text.isBlank c = false) (position : Nat) :
    scan position (lexeme.chars ++ rest) = (ofLexeme position lexeme ::
      (scan (position + lexeme.chars.length) rest).1,
      (scan (position + lexeme.chars.length) rest).2) :=
  scan_of_found (next_of_munches
    (@Scan.Munches.found _ _ [] _ _ rfl (List.forall_mem_nil _) visible longest))

theorem scan_comma (position : Nat) (rest : List Char) :
    scan position (',' :: rest) = (ofLexeme position ⟨.operator, [','], none⟩ ::
      (scan (position + 1) rest).1, (scan (position + 1) rest).2) :=
  @scan_of_longest _ ⟨.operator, [','], none⟩
    (Lexeme.longest_of_operator? rfl) (by rintro c ⟨⟩; rfl) position

theorem scan_bracket {c : Char} (paired : isBracket c = true) (visible : Text.isBlank c = false)
    (position : Nat) (rest : List Char) :
    scan position (c :: rest) = (ofLexeme position ⟨.bracket, [c], none⟩ ::
      (scan (position + 1) rest).1, (scan (position + 1) rest).2) :=
  @scan_of_longest _ ⟨.bracket, [c], none⟩
    (Lexeme.longest_of_bracket? (by simp [Lexeme.bracket?, paired]))
    (by rintro d ⟨⟩; exact visible) position

end Token

end Calculator
