import Calculator.Parse
import Mathlib

/-!
# The parts that tokens play

A token read from a text is a literal, a constant, a function, an operator between
or behind operands, or a bracket, and nothing else
(`Token.classified_of_ofSource`). Each of these has a place in the text.
-/

namespace Calculator

/-- Whether a text can name a constant or a function: a letter followed by word
characters. The suffix `deg` is an operator and no name. -/
def isName (text : String) : Bool :=
  match text.toList with
  | first :: rest => first.isAlpha && rest.all isWordChar && text != "deg"
  | [] => false

/-- The only operator in the table that is a name is the negation. -/
theorem Operator.ofText_of_isName {text : String} (name : isName text = true) :
    ofText text = .negate ∨ ofText text = .other := by
  unfold ofText
  split
  · rename_i row found
    have named : ∀ row ∈ table, isName row.2.2 = true → row.1 = .negate := by decide
    have same : row.2.2 = text := by simpa using List.find?_some found
    exact .inl (named row (List.mem_of_find?_eq_some found) (same ▸ name))
  · exact .inr rfl

theorem Operator.isInfixed_of_isName {text : String} (name : isName text = true) :
    isInfixed text = false := by
  unfold isInfixed
  rcases ofText_of_isName name with known | known <;> rw [known] <;> rfl

theorem Operator.isSuffixed_of_isName {text : String} (name : isName text = true) :
    isSuffixed text = false := by
  unfold isSuffixed
  rcases ofText_of_isName name with known | known <;> rw [known] <;> rfl

namespace Token

def IsLiteral (token : Token) : Prop :=
  token.kind = .number ∧ token.fixity = none ∧ token.isConstant = false ∧
    ∃ numeral : Numeral, token.value = some (.number numeral.value)

/-- A constant of the given settings. -/
def IsConstantOf (config : Config) (token : Token) : Prop :=
  token.kind = .number ∧ token.fixity = none ∧ token.isConstant = true ∧ token.value = none ∧
    isName token.lexeme = true ∧ config.isConstant token.lexeme = true

def IsFunction (token : Token) : Prop :=
  token.kind = .operator ∧ token.fixity = some .prefixed ∧ isName token.lexeme = true

def IsSign (token : Token) : Prop :=
  token.kind = .operator ∧ token.fixity = none ∧ token.lexeme = "-"

def IsInfix (token : Token) : Prop :=
  token.kind = .operator ∧ token.fixity = none ∧ Operator.isInfixed token.lexeme = true

def IsSuffix (token : Token) : Prop :=
  token.kind = .operator ∧ token.fixity = none ∧ Operator.isSuffixed token.lexeme = true

/-- A token that may stand among items once suffixes have moved. -/
def IsArrangeable (token : Token) : Prop :=
  token.kind = .number ∨ token.IsFunction ∨ token.IsInfix

def IsOpener (token : Token) : Prop := token.kind = .bracket ∧ token.opensGroup = true

def IsCloser (token : Token) : Prop := token.kind = .bracket ∧ token.opensGroup = false

/-- A bracket that may close the group of an opener: one that matches it, or any
closing bracket where brackets need not match. -/
def Closes (config : Config) (opener closer : Token) : Prop :=
  closer.IsCloser ∧ (config.strictBrackets = true → closerOf? opener.lexeme = some closer.lexeme)

instance : DecidablePred IsFunction := fun _ => inferInstanceAs (Decidable (_ ∧ _ ∧ _))

instance : DecidablePred IsSign := fun _ => inferInstanceAs (Decidable (_ ∧ _ ∧ _))

instance : DecidablePred IsInfix := fun _ => inferInstanceAs (Decidable (_ ∧ _ ∧ _))

instance : DecidablePred IsSuffix := fun _ => inferInstanceAs (Decidable (_ ∧ _ ∧ _))

instance : DecidablePred IsOpener := fun _ => inferInstanceAs (Decidable (_ ∧ _))

instance : DecidablePred IsCloser := fun _ => inferInstanceAs (Decidable (_ ∧ _))

instance (config : Config) (opener closer : Token) : Decidable (Closes config opener closer) :=
  inferInstanceAs (Decidable (_ ∧ (_ → _)))

theorem kind_ne_number_of_leading {token : Token} (role : token.IsFunction ∨ token.IsSign) :
    token.kind ≠ .number := by
  rcases role with role | role <;> simp [role.1]

/-- What a token of a text is once constants and functions are told apart. -/
inductive Classified (config : Config) (token : Token) : Prop
  | literal (role : token.IsLiteral)
  | constant (role : token.IsConstantOf config)
  | function (role : token.IsFunction)
  | between (role : token.IsInfix)
  | behind (role : token.IsSuffix)
  | opener (role : token.IsOpener)
  | closer (role : token.IsCloser)

end Token

namespace Lexeme

/-- What the lexeme at the front of a text is. -/
inductive Reading (text : List Char) (lexeme : Lexeme) : Prop
  | operator (kind : lexeme.kind = .operator) (spelled : lexeme.chars ∈ operatorSpellings)
      (valueless : lexeme.value = none)
  | bracket (kind : lexeme.kind = .bracket) (valueless : lexeme.value = none)
  | number (kind : lexeme.kind = .number) (numeral : Numeral) (rest : List Char)
      (read : Numeral.read? text = some (numeral, rest)) (spelled : lexeme.chars = numeral.chars)
      (value : lexeme.value = some numeral.value)
  | identifier (kind : lexeme.kind = .identifier) (first : Char) (rest : List Char)
      (front : text = first :: rest) (letter : first.isAlpha = true)
      (spelled : lexeme.chars = first :: rest.takeWhile isWordChar)
      (unspelled : operator? text = none) (valueless : lexeme.value = none)

theorem reading_of_read? {text : List Char} {lexeme : Lexeme} (read : read? text = some lexeme) :
    Reading text lexeme := by
  unfold read? at read
  cases isOperator : operator? text with
  | some found =>
      rw [isOperator] at read
      obtain rfl : found = lexeme := Option.some.inj read
      obtain ⟨spelling, chosen, rfl⟩ := Option.map_eq_some_iff.mp isOperator
      exact .operator rfl (List.mem_of_find?_eq_some chosen) rfl
  | none =>
      rw [isOperator] at read
      cases isBracket : bracket? text with
      | some found =>
          rw [isBracket] at read
          obtain rfl : found = lexeme := Option.some.inj read
          unfold bracket? at isBracket
          split at isBracket
          · split at isBracket
            · cases isBracket
              exact .bracket rfl rfl
            · cases isBracket
          · cases isBracket
      | none =>
          rw [isBracket] at read
          cases isNumber : number? text with
          | some found =>
              rw [isNumber] at read
              obtain rfl : found = lexeme := Option.some.inj read
              obtain ⟨⟨numeral, rest⟩, taken, rfl⟩ := Option.map_eq_some_iff.mp isNumber
              exact .number rfl numeral rest taken rfl rfl
          | none =>
              rw [isNumber] at read
              change identifier? text = some lexeme at read
              unfold identifier? at read
              split at read
              · rename_i first rest
                split at read
                · rename_i letter
                  cases read
                  exact .identifier rfl first rest rfl letter rfl isOperator rfl
                · cases read
              · cases read

/-- An identifier is a name: `deg` would have been read as an operator. -/
theorem isName_of_identifier {first : Char} {rest : List Char} (letter : first.isAlpha = true)
    (unspelled : operator? (first :: rest) = none) :
    isName (String.ofList (first :: rest.takeWhile isWordChar)) = true := by
  have words : (rest.takeWhile isWordChar).all isWordChar = true := List.all_takeWhile
  have different : first :: rest.takeWhile isWordChar ≠ ['d', 'e', 'g'] := by
    intro same
    obtain ⟨rfl, inner⟩ := List.cons.inj same
    have split := List.takeWhile_append_dropWhile (p := isWordChar) (l := rest)
    have behind : (rest.dropWhile isWordChar).head?.any isWordChar = false := by
      cases dropped : rest.dropWhile isWordChar with
      | nil => rfl
      | cons next _ =>
          have stops := List.head?_dropWhile_not isWordChar rest
          simpa [dropped] using stops
    have starts : startsWith ['d', 'e', 'g'] ('d' :: rest) = true := by
      rw [← split, inner]
      simp [startsWith, behind]
    simp [operator?, operatorSpellings, starts] at unspelled
  unfold isName
  simp only [String.toList_ofList, letter, words, Bool.true_and, Bool.and_true, bne_iff_ne]
  intro same
  apply different
  have unfolded := congrArg String.toList same
  simpa using unfolded

/-- Every operator spelling stands between or behind operands. -/
theorem isInfixed_or_isSuffixed_of_mem {spelling : List Char}
    (spelled : spelling ∈ operatorSpellings) :
    Operator.isInfixed (String.ofList spelling) = true ∨
      Operator.isSuffixed (String.ofList spelling) = true := by
  revert spelling
  decide

end Lexeme

namespace Token

/-- A token that is found is the lexeme at the first character that is not white
space. -/
theorem exists_reading_of_next {position : Nat} {text : List Char} {token : Token} {stop : Nat}
    {rest : List Char} (found : next position text = .found token stop rest) :
    ∃ lexeme : Lexeme, Lexeme.Reading (text.dropWhile Text.isBlank) lexeme ∧ ∃ start : Nat,
      token = ⟨lexeme.kind, String.ofList lexeme.chars, lexeme.value.map .number, start, none,
        false⟩ := by
  unfold next at found
  simp only at found
  split at found
  · cases found
  · rename_i first tail front
    split at found
    · cases found
    · rename_i lexeme read
      cases found
      exact ⟨lexeme, front ▸ Lexeme.reading_of_read? read, _, rfl⟩

theorem scan_of_finished {position : Nat} {text : List Char}
    (finished : next position text = .finished) : scan position text = ([], none) := by
  rw [scan]
  split
  · rfl
  · rename_i other
    rw [finished] at other
    cases other
  · rename_i other
    rw [finished] at other
    cases other

theorem scan_of_stuck {position : Nat} {text : List Char} {error : Unrecognized}
    (stuck : next position text = .stuck error) : scan position text = ([], some error) := by
  rw [scan]
  split
  · rename_i other
    rw [stuck] at other
    cases other
  · rename_i other
    rw [stuck] at other
    cases other
    rfl
  · rename_i other
    rw [stuck] at other
    cases other

theorem scan_of_found {position stop : Nat} {text rest : List Char} {token : Token}
    (found : next position text = .found token stop rest) :
    scan position text = (token :: (scan stop rest).1, (scan stop rest).2) := by
  rw [scan]
  split
  · rename_i other
    rw [found] at other
    cases other
  · rename_i other
    rw [found] at other
    cases other
  · rename_i other
    rw [found] at other
    cases other
    rfl

/-- What holds of every token that can be found holds of every token of a text. -/
theorem forall_mem_scan {P : Token → Prop}
    (holds : ∀ position text token stop rest, next position text = .found token stop rest → P token)
    (position : Nat) (text : List Char) : ∀ token ∈ (scan position text).1, P token := by
  fun_induction scan position text with
  | case1 position text finished => simp
  | case2 position text error stuck => simp
  | case3 position text token stop rest found shorter tokens error again ih =>
      intro other member
      rcases List.mem_cons.mp member with rfl | later
      · exact holds position text _ stop rest found
      · rw [again] at ih
        exact ih other later

theorem position_nonneg_of_next {position : Nat} {text : List Char} {token : Token} {stop : Nat}
    {rest : List Char} (found : next position text = .found token stop rest) :
    0 ≤ token.position := by
  obtain ⟨lexeme, -, start, rfl⟩ := exists_reading_of_next found
  exact Int.natCast_nonneg start

/-- Of the settings only the names of constants count for the part that a token plays. -/
theorem classify_congr {config other : Config}
    (constants : ∀ name, other.isConstant name = config.isConstant name) :
    classify other = classify config := by
  funext token
  rw [classify, classify, constants]

theorem classify_position (config : Config) (token : Token) :
    (token.classify config).position = token.position := by
  unfold classify
  split
  · split <;> rfl
  · rfl

/-- A token that is found plays one of the parts once it is classified. -/
theorem classified_of_next {config : Config} {position : Nat} {text : List Char} {token : Token}
    {stop : Nat} {rest : List Char} (found : next position text = .found token stop rest) :
    Classified config (token.classify config) := by
  obtain ⟨lexeme, reading, start, rfl⟩ := exists_reading_of_next found
  cases reading with
  | operator kind spelled valueless =>
      simp only [classify, kind, reduceCtorEq, ↓reduceIte]
      rcases Lexeme.isInfixed_or_isSuffixed_of_mem spelled with between | behind
      · exact .between ⟨rfl, rfl, between⟩
      · exact .behind ⟨rfl, rfl, behind⟩
  | bracket kind valueless =>
      simp only [classify, kind, reduceCtorEq, ↓reduceIte]
      by_cases opens : Token.opensGroup
          ⟨.bracket, String.ofList lexeme.chars, lexeme.value.map .number, start, none, false⟩ =
            true
      · exact .opener ⟨rfl, opens⟩
      · exact .closer ⟨rfl, Bool.eq_false_iff.mpr opens⟩
  | number kind numeral rest read spelled value =>
      simp only [classify, kind, reduceCtorEq, ↓reduceIte, value, Option.map_some]
      exact .literal ⟨rfl, rfl, rfl, numeral, rfl⟩
  | identifier kind first rest front letter spelled unspelled valueless =>
      have name : isName (String.ofList lexeme.chars) = true := by
        rw [spelled]
        exact Lexeme.isName_of_identifier letter (front ▸ unspelled)
      simp only [classify, kind, ↓reduceIte, valueless, Option.map_none]
      by_cases constant : config.isConstant (String.ofList lexeme.chars) = true
      · simp only [constant, ↓reduceIte]
        exact .constant ⟨rfl, rfl, rfl, rfl, name, constant⟩
      · simp only [constant, Bool.false_eq_true, ↓reduceIte]
        exact .function ⟨rfl, rfl, name⟩

/-- A token of a text: only numbers have values and are constants, and no constant is
a function. -/
structure Settled (config : Config) (token : Token) : Prop where
  classified : Classified config token
  valueless : token.kind ≠ .number → token.value = none
  operative : token.kind ≠ .number → token.isConstant = false
  free : token.fixity = some .prefixed → config.isConstant token.lexeme = false

theorem settled_of_next {config : Config} {position : Nat} {text : List Char} {token : Token}
    {stop : Nat} {rest : List Char} (found : next position text = .found token stop rest) :
    Settled config (token.classify config) := by
  have classified : Classified config (token.classify config) := classified_of_next found
  obtain ⟨lexeme, reading, start, rfl⟩ := exists_reading_of_next found
  have valueless : lexeme.kind ≠ .number → lexeme.value = none := by
    intro other
    cases reading with
    | operator _ _ valueless => exact valueless
    | bracket _ valueless => exact valueless
    | number kind => exact absurd kind other
    | identifier _ _ _ _ _ _ _ valueless => exact valueless
  by_cases name : lexeme.kind = .identifier
  · have plain : lexeme.value = none := valueless (by simp [name])
    by_cases constant : config.isConstant (String.ofList lexeme.chars) = true
    · simp only [classify, name, constant, plain, ↓reduceIte] at classified ⊢
      exact ⟨classified, (absurd rfl ·), (absurd rfl ·), (absurd · (Option.some_ne_none _).symm)⟩
    · simp only [classify, name, constant, plain, Bool.false_eq_true, ↓reduceIte] at classified ⊢
      exact ⟨classified, fun _ => rfl, fun _ => rfl, fun _ => Bool.eq_false_iff.mpr constant⟩
  · simp only [classify, name, ↓reduceIte] at classified ⊢
    refine ⟨classified, fun other => ?_, fun _ => rfl, (absurd · (Option.some_ne_none _).symm)⟩
    rw [valueless other]
    rfl

/-- The tokens of a source are those that are found in it, classified. -/
theorem scan_of_ofSource {config : Config} {source : String} {tokens : List Token}
    (read : ofSource config source = .ok tokens) :
    scan 0 source.toList = ((scan 0 source.toList).1, none) ∧
      tokens = (scan 0 source.toList).1.map (classify config) := by
  unfold ofSource ofText at read
  rcases scanned : scan 0 source.toList with ⟨found, _ | error⟩
  · rw [scanned] at read
    exact ⟨rfl, (Except.ok.inj read).symm⟩
  · rw [scanned] at read
    cases read

theorem settled_of_ofSource {config : Config} {source : String} {tokens : List Token}
    (read : ofSource config source = .ok tokens) : ∀ token ∈ tokens, Settled config token := by
  obtain ⟨-, rfl⟩ := scan_of_ofSource read
  intro token member
  obtain ⟨found, inside, rfl⟩ := List.mem_map.mp member
  exact forall_mem_scan (P := fun token => Settled config (token.classify config))
    (fun _ _ _ _ _ => settled_of_next) 0 source.toList found inside

theorem classified_of_ofSource {config : Config} {source : String} {tokens : List Token}
    (read : ofSource config source = .ok tokens) : ∀ token ∈ tokens, Classified config token :=
  fun token member => (settled_of_ofSource read token member).classified

theorem position_nonneg_of_ofSource {config : Config} {source : String} {tokens : List Token}
    (read : ofSource config source = .ok tokens) : ∀ token ∈ tokens, 0 ≤ token.position := by
  obtain ⟨-, rfl⟩ := scan_of_ofSource read
  intro token member
  obtain ⟨found, inside, rfl⟩ := List.mem_map.mp member
  rw [classify_position]
  exact forall_mem_scan (P := fun token => 0 ≤ token.position)
    (fun _ _ _ _ _ => position_nonneg_of_next) 0 source.toList found inside

end Token

end Calculator
