import Calculator.Proofs.Token.Joining
import Calculator.Proofs.Token.Respelling

/-!
# Lexemes that touch

Without white space between them lexemes may run together: `!` and `==` become `!=` and
`=`. An operator keeps to itself where no operator goes on with the character behind it
(`Lexeme.longest_of_stops`), as in front of an operand, and a number does in front of an
operator or a bracket (`Lexeme.longest_of_literal`).
-/

namespace Calculator

/-- How an operand starts that is written with all brackets. -/
def StartsOperand (c : Char) : Prop := c = '(' ∨ c = '-' ∨ c.isDigit = true

/-- What can stand behind such an operand: a closing bracket, or how an operator starts. -/
def followers : List Char := [')', '!', '+', '-', '*', '/', '^', '=', '<', '>']

namespace Lexeme

variable {spelling rest : List Char}

/-- An operator is the longest lexeme where no operator goes on with what is behind it. -/
theorem longest_of_stops (spelled : spelling ∈ operatorSpellings) (symbols : spelling ≠ deg)
    (stops : ∀ c ∈ rest.head?, ∀ other ∈ operatorSpellings, ¬ spelling ++ [c] <+: other) :
    Longest ⟨.operator, spelling, none⟩ (spelling ++ rest) := by
  have fronts : Fronts ⟨.operator, spelling, none⟩ (spelling ++ rest) :=
    ⟨.operator spelled, List.prefix_append _ _⟩
  refine ⟨fronts, ?_, fun _ _ _ _ => rfl⟩
  rintro other ⟨formed, front⟩
  have sort := fronts.kind_eq ⟨formed, front⟩
  cases formed with
  | @operator other spelled' =>
      refine Nat.le_of_not_lt fun longer => ?_
      obtain ⟨further, rfl⟩ :=
        List.prefix_of_prefix_length_le (List.prefix_append _ _) front (Nat.le_of_lt longer)
      have behind : further <+: rest := (List.prefix_append_right_inj spelling).mp front
      cases further with
      | nil => simp at longer
      | cons c further =>
          obtain ⟨tail, rfl⟩ := behind
          exact stops c rfl _ spelled' ⟨further, by simp⟩
  | bracket => simp at sort
  | number => simp at sort
  | identifier => simp [symbols] at sort

/-- No operator goes on with the beginning of an operand. -/
theorem stops_of_startsOperand (spelled : spelling ∈ operatorSpellings)
    {c : Char} (starts : StartsOperand c) :
    ∀ other ∈ operatorSpellings, ¬ spelling ++ [c] <+: other := by
  have nonempty : ∀ spelling ∈ operatorSpellings, spelling ≠ [] := by decide
  have later : operatorSpellings.all (fun other =>
      other.tail.all fun c => c != '(' && c != '-' && !c.isDigit) = true := by decide
  rintro other member ⟨further, rfl⟩
  obtain ⟨first, others, rfl⟩ := List.exists_cons_of_ne_nil (nonempty spelling spelled)
  have inside := List.all_eq_true.mp (List.all_eq_true.mp later _ member) c (by simp)
  rcases starts with rfl | rfl | digit
  · cases inside
  · cases inside
  · simp [digit] at inside

/-- An operator in front of an operand keeps to itself. -/
theorem longest_of_startsOperand (spelled : spelling ∈ operatorSpellings) (symbols : spelling ≠ deg)
    (starts : ∀ c ∈ rest.head?, StartsOperand c) :
    Longest ⟨.operator, spelling, none⟩ (spelling ++ rest) :=
  longest_of_stops spelled symbols fun c head => stops_of_startsOperand spelled (starts c head)

/-- Only an equals sign can join a `!`. -/
theorem longest_factorial (apart : ∀ c ∈ rest.head?, c ≠ '=') :
    Longest ⟨.operator, ['!'], none⟩ ('!' :: rest) := by
  refine @longest_of_stops ['!'] rest (by decide) (by decide) fun c head other member front => ?_
  have joined : operatorSpellings.all (fun other =>
      other.head? != some '!' || other.tail.head?.all (· == '=')) = true := by decide
  obtain ⟨further, rfl⟩ := front
  have same := List.all_eq_true.mp joined _ member
  exact apart c head (by simpa using same)

/-- A `!` in front of an equals sign becomes one operator with it. -/
theorem longest_notEqual (rest : List Char) :
    Longest ⟨.operator, ['!', '='], none⟩ ('!' :: '=' :: rest) :=
  longest_of_operator? rfl

/-- A number that did not go to infinity ends where an operator or a bracket follows. -/
theorem longest_of_literal {token : Token} (role : token.IsLiteral) (finite : ¬ token.Overflows)
    (follows : ∀ c ∈ rest.head?, c ∈ followers) :
    token.respelled.Longest (token.respelled.chars ++ rest) := by
  obtain ⟨whole, fraction, exponent, written, same, -⟩ := role.exists_respelled finite
  have known : followers.all (fun c => decide (c.isDigit = false ∧ c ≠ '.' ∧
      ¬ (c = 'e' ∨ c = 'E') ∧ Numeral.baseOf? c = none)) = true := by decide
  rw [same]
  refine longest_of_read? (read?_numeral written fun c head => ?_)
  exact of_decide_eq_true (List.all_eq_true.mp known c (follows c head))

/-- A number starts with a digit. -/
theorem exists_digit_of_literal {token : Token} (role : token.IsLiteral)
    (finite : ¬ token.Overflows) :
    ∃ first others, token.respelled.chars = first :: others ∧ first.isDigit = true := by
  obtain ⟨whole, fraction, exponent, written, same, -⟩ := role.exists_respelled finite
  obtain ⟨first, others, rfl⟩ := List.exists_cons_of_ne_nil written.nonempty
  refine ⟨first, others ++ fraction.elim [] ('.' :: ·) ++ exponent.elim [] Exponent.chars, ?_,
    written.whole first List.mem_cons_self⟩
  rw [same]
  simp [Numeral.chars]

end Lexeme

end Calculator
