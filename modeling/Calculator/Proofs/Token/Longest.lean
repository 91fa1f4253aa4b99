import Calculator.Proofs.Token.NumeralLongest
import Calculator.Proofs.Token.Pieces

/-!
# The longest lexeme

A lexeme belongs to one of four classes (`Lexeme.Formed`): operators, brackets, numbers
and identifiers. The classes are tried in a fixed order, and still the lexeme that is read
is the longest one of any class at the front of the text; where the operator `deg` is as
long as an identifier, the operator is read (`Lexeme.read?_eq_some_iff`). Nothing is read
where no lexeme stands (`Lexeme.read?_eq_none_iff`).

The first character of a lexeme tells its class, `d` apart (`Lexeme.Fronts.kind_eq`), so
lexemes compete within one class only, or `deg` competes with an identifier.
-/

namespace Calculator

namespace Lexeme

/-- The lexemes of each class, with the value that numbers have. -/
inductive Formed : Lexeme → Prop
  | operator {spelling : List Char} (spelled : spelling ∈ operatorSpellings) :
      Formed ⟨.operator, spelling, none⟩
  | bracket {c : Char} (paired : isBracket c = true) : Formed ⟨.bracket, [c], none⟩
  | number {numeral : Numeral} (grammatical : numeral.Grammatical) :
      Formed ⟨.number, numeral.chars, some numeral.value⟩
  | identifier {first : Char} {others : List Char} (letter : first.isAlpha = true)
      (words : ∀ c ∈ others, isWordChar c = true) : Formed ⟨.identifier, first :: others, none⟩

/-- A lexeme at the front of a text. -/
def Fronts (lexeme : Lexeme) (text : List Char) : Prop := lexeme.Formed ∧ lexeme.chars <+: text

/-- The longest lexeme at the front of a text; operators come before identifiers. -/
structure Longest (lexeme : Lexeme) (text : List Char) : Prop where
  fronts : lexeme.Fronts text
  longest : ∀ other : Lexeme, other.Fronts text → other.chars.length ≤ lexeme.chars.length
  operates : ∀ other : Lexeme, other.Fronts text → other.chars = lexeme.chars →
    other.kind = .operator → lexeme.kind = .operator

/-- The spelling of the only operator with letters. -/
def deg : List Char := ['d', 'e', 'g']

/-- The class of the lexemes that start with a character, `deg` apart. -/
def kindOf? (c : Char) : Option TokenKind :=
  if isBracket c then some .bracket
  else if c.isDigit ∨ c = '.' then some .number
  else if c.isAlpha then some .identifier
  else if operatorSpellings.any (·.head? == some c) then some .operator
  else none

theorem kindOf?_of_isAlpha {c : Char} (letter : c.isAlpha = true) :
    kindOf? c = some .identifier := by
  have pointless : c ≠ '.' := by
    rintro rfl
    cases letter
  simp [kindOf?, isBracket_eq_false (.inl letter), isDigit_of_isAlpha letter, pointless, letter]

theorem kindOf?_of_number {c : Char} (digit : c.isDigit = true ∨ c = '.') :
    kindOf? c = some .number := by
  have bracketless : isBracket c = false := by
    rcases digit with digit | rfl
    · exact isBracket_eq_false (.inr digit)
    · rfl
  simp [kindOf?, bracketless, digit]

theorem head_of_operator {spelling : List Char} (spelled : spelling ∈ operatorSpellings) :
    spelling = deg ∨ ∃ first others, spelling = first :: others ∧
      kindOf? first = some .operator ∧ spelling.any Char.isAlpha = false := by
  have listed : ∀ spelling ∈ operatorSpellings, spelling = deg ∨
      spelling.head?.bind kindOf? = some .operator ∧ spelling.any Char.isAlpha = false := by
    decide
  rcases listed spelling spelled with same | ⟨head, letterless⟩
  · exact .inl same
  · cases spelling with
    | nil => cases head
    | cons first others => exact .inr ⟨first, others, rfl, head, letterless⟩

/-- The first character of a lexeme other than `deg` tells its class. -/
theorem Formed.head {lexeme : Lexeme} (formed : lexeme.Formed) :
    ∃ first others, lexeme.chars = first :: others ∧
      (lexeme.kind = .operator ∧ lexeme.chars = deg ∨ kindOf? first = some lexeme.kind) := by
  cases formed with
  | operator spelled =>
      rcases head_of_operator spelled with rfl | ⟨first, others, rfl, head, -⟩
      · exact ⟨'d', ['e', 'g'], rfl, .inl ⟨rfl, rfl⟩⟩
      · exact ⟨first, others, rfl, .inr head⟩
  | bracket paired => exact ⟨_, [], rfl, .inr (by simp [kindOf?, paired])⟩
  | number grammatical =>
      obtain ⟨first, others, front, digit⟩ := Numeral.head_of_grammatical grammatical
      exact ⟨first, others, front, .inr (kindOf?_of_number digit)⟩
  | identifier letter => exact ⟨_, _, rfl, .inr (kindOf?_of_isAlpha letter)⟩

variable {lexeme other : Lexeme} {text : List Char}

/-- Lexemes at one place are of one class, or they are `deg` and an identifier. -/
theorem Fronts.kind_eq (front : lexeme.Fronts text) (behind : other.Fronts text) :
    lexeme.kind = other.kind ∨
      (lexeme.kind = .operator ∧ lexeme.chars = deg ∧ other.kind = .identifier) ∨
      (other.kind = .operator ∧ other.chars = deg ∧ lexeme.kind = .identifier) := by
  obtain ⟨first, others, chars, sort⟩ := front.1.head
  obtain ⟨first', others', chars', sort'⟩ := behind.1.head
  have same : first = first' := by
    obtain ⟨tail, split⟩ := front.2
    obtain ⟨tail', split'⟩ := behind.2
    rw [← split', chars, chars'] at split
    exact (List.cons.inj split).1
  have letter : kindOf? 'd' = some .identifier := kindOf?_of_isAlpha rfl
  rcases sort with ⟨operates, spelled⟩ | sort
  · rcases sort' with ⟨operates', -⟩ | sort'
    · exact .inl (operates.trans operates'.symm)
    · obtain rfl : first = 'd' := (List.cons.inj (chars.symm.trans spelled)).1
      rw [← same, letter] at sort'
      exact .inr (.inl ⟨operates, spelled, (Option.some.inj sort').symm⟩)
  · rcases sort' with ⟨operates', spelled'⟩ | sort'
    · obtain rfl : first' = 'd' := (List.cons.inj (chars'.symm.trans spelled')).1
      rw [same, letter] at sort
      exact .inr (.inr ⟨operates', spelled', (Option.some.inj sort).symm⟩)
    · rw [same, sort'] at sort
      exact .inl (Option.some.inj sort).symm

/-- Lexemes of one class with the same spelling are the same. -/
theorem Formed.eq_of_chars_eq (formed : lexeme.Formed) (otherwise : other.Formed)
    (sort : lexeme.kind = other.kind) (same : lexeme.chars = other.chars) : lexeme = other := by
  cases formed <;> cases otherwise <;> cases sort
  · cases same
    rfl
  · cases same
    rfl
  · rename_i grammatical numeral grammatical'
    obtain rfl := Numeral.eq_of_chars_eq grammatical grammatical' same
    rfl
  · cases same
    rfl

/-- There is one longest lexeme at most. -/
theorem Longest.unique (longest : lexeme.Longest text) (otherwise : other.Longest text) :
    lexeme = other := by
  have length : lexeme.chars.length = other.chars.length :=
    Nat.le_antisymm (otherwise.longest _ longest.fronts) (longest.longest _ otherwise.fronts)
  have chars : lexeme.chars = other.chars :=
    (List.prefix_of_prefix_length_le longest.fronts.2 otherwise.fronts.2 length.le).eq_of_length
      length
  have sort : lexeme.kind = other.kind := by
    rcases longest.fronts.kind_eq otherwise.fronts with same | ⟨operates, -, named⟩ |
      ⟨operates, -, named⟩
    · exact same
    · exact operates.trans (otherwise.operates _ longest.fronts chars operates).symm
    · exact (longest.operates _ otherwise.fronts chars.symm operates).trans operates.symm
  exact longest.fronts.1.eq_of_chars_eq otherwise.fronts.1 sort chars

theorem prefix_of_startsWith {spelling : List Char} (starts : startsWith spelling text = true) :
    spelling <+: text := by
  unfold startsWith at starts
  exact List.isPrefixOf_iff_prefix.mp (Bool.and_eq_true_iff.mp starts).1

/-- An operator of symbols only may run on. -/
theorem startsWith_of_front {spelling : List Char} (spelled : spelling ∈ operatorSpellings)
    (other : spelling ≠ deg) (front : spelling <+: text) : startsWith spelling text = true := by
  obtain ⟨_, _, -, -, letterless⟩ := (head_of_operator spelled).resolve_left other
  simp [startsWith, letterless, List.isPrefixOf_iff_prefix.mpr front]

/-- Where `deg` stands, it is the only operator. -/
theorem eq_deg_of_front {spelling : List Char} (spelled : spelling ∈ operatorSpellings)
    (front : spelling <+: text) (degrees : deg <+: text) : spelling = deg := by
  rcases head_of_operator spelled with same | ⟨first, others, rfl, sort, -⟩
  · exact same
  · obtain ⟨tail, rfl⟩ := degrees
    obtain ⟨rfl, -⟩ := List.cons_prefix_cons.mp front
    cases (kindOf?_of_isAlpha rfl).symm.trans sort

/-- The operator that is read is the longest one: longer spellings are tried first. -/
theorem exists_spelling_of_operator? (read : operator? text = some lexeme) :
    ∃ spelling ∈ operatorSpellings, lexeme = ⟨.operator, spelling, none⟩ ∧
      startsWith spelling text = true ∧
      ∀ other ∈ operatorSpellings, other <+: text → other.length ≤ spelling.length := by
  obtain ⟨spelling, chosen, rfl⟩ := Option.map_eq_some_iff.mp read
  obtain ⟨starts, before, after, split, missed⟩ := List.find?_eq_some_iff_append.mp chosen
  have spelled : spelling ∈ operatorSpellings := List.mem_of_find?_eq_some chosen
  have descending : operatorSpellings.Pairwise (fun long short => short.length ≤ long.length) := by
    decide
  refine ⟨spelling, spelled, rfl, starts, fun other member front => ?_⟩
  rw [split] at descending
  rw [split, List.mem_append, List.mem_cons] at member
  rcases member with earlier | rfl | later
  · have spelled' : other ∈ operatorSpellings := by
      rw [split]
      exact List.mem_append_left _ earlier
    have degrees : other = deg := by
      by_contra different
      have starts' := startsWith_of_front spelled' different front
      have passed := missed other earlier
      rw [starts'] at passed
      cases passed
    rw [eq_deg_of_front spelled (prefix_of_startsWith starts) (degrees ▸ front), degrees]
  · exact Nat.le_refl _
  · exact (List.pairwise_cons.mp (List.pairwise_append.mp descending).2.1).1 other later

/-- Where no operator is read, none stands, or `deg` is the beginning of a longer word. -/
theorem exists_word_of_operator? (unread : operator? text = none) {spelling : List Char}
    (spelled : spelling ∈ operatorSpellings) (front : spelling <+: text) :
    spelling = deg ∧ ∃ next rest, text = 'd' :: 'e' :: 'g' :: next :: rest ∧
      isWordChar next = true := by
  have missed : startsWith spelling text = false := by
    have none := List.find?_eq_none.mp (Option.map_eq_none_iff.mp unread) spelling spelled
    exact Bool.eq_false_iff.mpr none
  have degrees : spelling = deg := by
    by_contra different
    rw [startsWith_of_front spelled different front] at missed
    cases missed
  subst degrees
  refine ⟨rfl, ?_⟩
  obtain ⟨tail, rfl⟩ := front
  cases tail with
  | nil => cases missed
  | cons next rest =>
      refine ⟨next, rest, rfl, ?_⟩
      simpa [startsWith, deg] using missed

/-- A word that starts where `deg` is read is not longer. -/
theorem length_le_of_startsWith {first : Char} {others : List Char}
    (starts : startsWith deg text = true) (words : ∀ c ∈ others, isWordChar c = true)
    (front : first :: others <+: text) : (first :: others).length ≤ deg.length := by
  obtain ⟨tail, rfl⟩ := prefix_of_startsWith starts
  match others with
  | [] | [_] | [_, _] => simp [deg]
  | second :: third :: fourth :: others =>
      have word := words fourth (by simp)
      cases tail with
      | nil => simp [deg] at front
      | cons next tail =>
          have same : fourth = next := by
            simp [deg] at front
            exact front.2.2.2.1
          simp [startsWith, deg, ← same, word] at starts

/-- A word at the front of a text ends where the word characters do. -/
theorem length_le_takeWhile {first c : Char} {others rest : List Char}
    (words : ∀ c ∈ others, isWordChar c = true) (front : first :: others <+: c :: rest) :
    (first :: others).length ≤ (c :: rest.takeWhile isWordChar).length := by
  obtain ⟨rfl, tail, rfl⟩ := List.cons_prefix_cons.mp front
  rw [List.takeWhile_append_of_pos words, List.length_cons, List.length_cons, List.length_append]
  omega

theorem longest_of_operator? (read : operator? text = some lexeme) : lexeme.Longest text := by
  obtain ⟨spelling, spelled, rfl, starts, longest⟩ := exists_spelling_of_operator? read
  have fronts : Fronts ⟨.operator, spelling, none⟩ text :=
    ⟨.operator spelled, prefix_of_startsWith starts⟩
  refine ⟨fronts, fun other front => ?_, fun _ _ _ _ => rfl⟩
  obtain ⟨formed, ahead⟩ := front
  have sort := fronts.kind_eq ⟨formed, ahead⟩
  cases formed with
  | operator spelled' => exact longest _ spelled' ahead
  | bracket => simp at sort
  | number => simp at sort
  | identifier letter words =>
      obtain ⟨-, same, -⟩ | ⟨other, -⟩ := sort.resolve_left (by simp)
      · subst same
        exact length_le_of_startsWith starts words ahead
      · cases other

/-- Brackets and numbers compete with their own class only. -/
theorem Fronts.longest (fronts : lexeme.Fronts text)
    (sort : lexeme.kind = .bracket ∨ lexeme.kind = .number)
    (longest : ∀ other : Lexeme, other.Fronts text → other.kind = lexeme.kind →
      other.chars.length ≤ lexeme.chars.length) : lexeme.Longest text := by
  have same : ∀ other : Lexeme, other.Fronts text → other.kind = lexeme.kind := by
    intro other front
    rcases fronts.kind_eq front with same | ⟨operates, -⟩ | ⟨-, -, named⟩
    · exact same.symm
    · rw [operates] at sort
      simp at sort
    · rw [named] at sort
      simp at sort
  refine ⟨fronts, fun other front => longest other front (same other front), ?_⟩
  exact fun other front _ operates => (same other front).symm.trans operates

theorem longest_of_bracket? (read : bracket? text = some lexeme) : lexeme.Longest text := by
  unfold bracket? at read
  split at read
  · split at read
    · rename_i paired
      cases read
      refine Fronts.longest ⟨.bracket paired, by simp⟩ (.inl rfl) fun other front bracket => ?_
      cases front.1 <;> cases bracket
      exact Nat.le_refl _
    · cases read
  · cases read

theorem longest_of_number? (read : number? text = some lexeme) : lexeme.Longest text := by
  obtain ⟨⟨numeral, rest⟩, taken, rfl⟩ := Option.map_eq_some_iff.mp read
  obtain ⟨grammatical, split⟩ := Numeral.grammatical_of_read? taken
  refine Fronts.longest ⟨.number grammatical, rest, split.symm⟩ (.inr rfl) ?_
  rintro other ⟨formed, ahead⟩ number
  cases formed <;> cases number
  exact Numeral.length_le_of_read? taken ‹_› ahead

/-- An identifier is read where no operator is: `deg` is shorter there. -/
theorem longest_of_identifier? (unread : operator? text = none)
    (read : identifier? text = some lexeme) : lexeme.Longest text := by
  unfold identifier? at read
  split at read
  · rename_i c rest
    split at read
    · rename_i letter
      cases read
      have fronts : Fronts ⟨.identifier, c :: rest.takeWhile isWordChar, none⟩ (c :: rest) :=
        ⟨.identifier letter fun _ => List.mem_takeWhile_imp,
          List.cons_prefix_cons.mpr ⟨rfl, List.takeWhile_prefix _⟩⟩
      have degrees : ∀ spelling ∈ operatorSpellings, spelling <+: c :: rest →
          spelling.length < (c :: rest.takeWhile isWordChar).length := by
        intro spelling spelled front
        obtain ⟨rfl, next, tail, split, word⟩ := exists_word_of_operator? unread spelled front
        cases split
        have letters : isWordChar 'e' = true ∧ isWordChar 'g' = true := by decide
        simp [deg, letters, word]
      refine ⟨fronts, ?_, ?_⟩
      · rintro other ⟨formed, ahead⟩
        have sort := fronts.kind_eq ⟨formed, ahead⟩
        cases formed with
        | operator spelled => exact (degrees _ spelled ahead).le
        | bracket => simp at sort
        | number => simp at sort
        | identifier _ words => exact length_le_takeWhile words ahead
      · rintro other ⟨formed, ahead⟩ same operates
        cases formed <;> cases operates
        have shorter := degrees _ ‹_› ahead
        rw [same] at shorter
        exact absurd shorter (Nat.lt_irrefl _)
    · cases read
  · cases read

/-- What is read is the longest lexeme. -/
theorem longest_of_read? (read : read? text = some lexeme) : lexeme.Longest text := by
  unfold read? at read
  cases isOperator : operator? text with
  | some found =>
      rw [isOperator] at read
      exact longest_of_operator? (isOperator.trans read)
  | none =>
      rw [isOperator] at read
      cases isBracket : bracket? text with
      | some found =>
          rw [isBracket] at read
          exact longest_of_bracket? (isBracket.trans read)
      | none =>
          rw [isBracket] at read
          cases isNumber : number? text with
          | some found =>
              rw [isNumber] at read
              exact longest_of_number? (isNumber.trans read)
          | none =>
              rw [isNumber] at read
              exact longest_of_identifier? isOperator read

/-- A text that starts with a lexeme is read. -/
theorem Fronts.read?_ne_none (fronts : lexeme.Fronts text) : read? text ≠ none := by
  intro unread
  obtain ⟨noOperator, noBracket, noNumber, noIdentifier⟩ : operator? text = none ∧
      bracket? text = none ∧ number? text = none ∧ identifier? text = none := by
    revert unread
    unfold read?
    cases operator? text <;> cases bracket? text <;> cases number? text <;> simp
  obtain ⟨formed, front⟩ := fronts
  cases formed with
  | operator spelled =>
      obtain ⟨-, next, rest, rfl, -⟩ := exists_word_of_operator? noOperator spelled front
      cases noIdentifier
  | bracket paired =>
      obtain ⟨rest, rfl⟩ := front
      simp [bracket?, paired] at noBracket
  | number grammatical =>
      exact Numeral.read?_ne_none grammatical front (Option.map_eq_none_iff.mp noNumber)
  | identifier letter =>
      obtain ⟨rest, rfl⟩ := front
      simp [identifier?, letter] at noIdentifier

/-- The lexeme that is read is the longest one, and the longest one is read. -/
theorem read?_eq_some_iff : read? text = some lexeme ↔ lexeme.Longest text := by
  refine ⟨longest_of_read?, fun longest => ?_⟩
  obtain ⟨found, read⟩ := Option.ne_none_iff_exists'.mp longest.fronts.read?_ne_none
  rw [read, (longest_of_read? read).unique longest]

theorem read?_eq_none_iff : read? text = none ↔ ∀ lexeme : Lexeme, ¬ lexeme.Fronts text := by
  refine ⟨fun unread lexeme fronts => fronts.read?_ne_none unread, fun formless => ?_⟩
  by_contra read
  obtain ⟨found, read⟩ := Option.ne_none_iff_exists'.mp read
  exact formless found (longest_of_read? read).fronts

end Lexeme

end Calculator
