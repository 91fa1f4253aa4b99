import Calculator.Proofs.Token.Joining

/-!
# White space between tokens

No lexeme contains white space (`Lexeme.Formed.isBlank`), and a lexeme that was cut out of a
text is the longest one of its own spelling (`Token.StandsAlone`). So it is read again
wherever white space follows it or the text ends, whatever it touched before. A text in
which such tokens are laid out with new gaps between them (`Token.layOut`) is cut into the
same tokens, each at the place where its lexeme was put (`Token.scan_layOut`).
-/

namespace Calculator

namespace Numeral

theorem isBlank_of_baseOf? {marker : Char} {base : Nat} (announced : baseOf? marker = some base) :
    Text.isBlank marker = false := by
  unfold baseOf? at announced
  split at announced
  · rename_i sixteen
    rcases sixteen with rfl | rfl <;> rfl
  split at announced
  · rename_i eight
    rcases eight with rfl | rfl <;> rfl
  split at announced
  · rename_i two
    rcases two with rfl | rfl <;> rfl
  · cases announced

/-- No white space stands inside a numeral. -/
theorem Grammatical.isBlank {numeral : Numeral} (grammatical : numeral.Grammatical) :
    ∀ c ∈ numeral.chars, Text.isBlank c = false := by
  intro c member
  cases grammatical with
  | @based marker base digits announced nonempty inside =>
      have dark : ∀ base ∈ [16, 8, 2], (alphabet base).all (!Text.isBlank ·) = true := by
        decide +kernel
      have known : base ∈ [16, 8, 2] := by simpa using base_of_baseOf? announced
      simp only [chars, List.mem_cons] at member
      rcases member with rfl | rfl | digit
      · rfl
      · exact isBlank_of_baseOf? announced
      · simpa using List.all_eq_true.mp (dark base known) c (inside c digit)
  | decimal nonempty inside complete =>
      have marks : ['.', 'e', 'E', '+', '-'].all (!Text.isBlank ·) = true := by decide
      rcases isDigit_or_mem_of_mem_decimal inside complete c member with digit | mark
      · exact Lexeme.isBlank_eq_false (.inr digit)
      · simpa using List.all_eq_true.mp marks c mark

end Numeral

namespace Lexeme

variable {lexeme : Lexeme} {text rest : List Char}

theorem isBlank_of_isWordChar {c : Char} (word : isWordChar c = true) : Text.isBlank c = false := by
  simp only [isWordChar, Char.isAlphanum, Bool.or_eq_true, beq_iff_eq] at word
  rcases word with known | rfl
  · exact isBlank_eq_false known
  · rfl

/-- No white space stands inside a lexeme. -/
theorem Formed.isBlank (formed : lexeme.Formed) : ∀ c ∈ lexeme.chars, Text.isBlank c = false := by
  cases formed with
  | operator spelled =>
      have dark : operatorSpellings.all (·.all (!Text.isBlank ·)) = true := by decide
      intro c member
      simpa using List.all_eq_true.mp (List.all_eq_true.mp dark _ spelled) c member
  | @bracket c paired =>
      have dark : bracketPairs.all (fun pair => !Text.isBlank pair.1 && !Text.isBlank pair.2) =
          true := by decide
      obtain ⟨pair, known, same⟩ := List.any_eq_true.mp paired
      have both := List.all_eq_true.mp dark pair known
      simp only [Bool.and_eq_true, Bool.not_eq_true', Bool.or_eq_true, beq_iff_eq] at both same
      rintro d member
      obtain rfl := List.mem_singleton.mp member
      rcases same with rfl | rfl
      · exact both.1
      · exact both.2
  | number grammatical => exact grammatical.isBlank
  | identifier letter words =>
      refine List.forall_mem_cons.mpr ⟨isBlank_eq_false (.inl letter), fun c member => ?_⟩
      exact isBlank_of_isWordChar (words c member)

theorem divides_of_isBlank {c : Char} (blank : Text.isBlank c = true) : Divides c := by
  intro lexeme formed _ member
  rw [formed.isBlank c member] at blank
  cases blank

/-- A lexeme is read behind a gap and in front of one, or at the end of the text. -/
theorem Longest.next {lexeme : Lexeme} (alone : lexeme.Longest lexeme.chars) {gap : List Char}
    (blank : Text.Blank gap) {rest : List Char}
    (apart : ∀ c ∈ rest.head?, Text.isBlank c = true) (position : Nat) :
    Token.next position (gap ++ (lexeme.chars ++ rest)) =
      .found (Token.ofLexeme (position + gap.length) lexeme)
        (position + gap.length + lexeme.chars.length) rest := by
  refine Token.next_of_munches (.found rfl blank (fun c head => ?_) ?_)
  · exact alone.fronts.1.isBlank c (List.mem_of_mem_head? head)
  · exact alone.append fun c head => divides_of_isBlank (apart c head)

end Lexeme

namespace Token

variable {tokens : List Token} {position : Nat}

theorem ofText_eq_ok_iff {source : String} :
    ofText source = .ok tokens ↔ scan 0 source.toList = (tokens, none) := by
  unfold ofText
  rcases scan 0 source.toList with ⟨found, _ | error⟩ <;> simp

/-- A numeral that is the whole text is the only token of the text. -/
theorem ofText_numeral {numeral : Numeral} (grammatical : numeral.Grammatical) :
    ofText (String.ofList numeral.chars) =
      .ok [ofLexeme 0 ⟨.number, numeral.chars, some numeral.value⟩] := by
  let lexeme : Lexeme := ⟨.number, numeral.chars, some numeral.value⟩
  have alone : lexeme.Longest lexeme.chars :=
    Lexeme.Fronts.longest ⟨.number grammatical, List.prefix_refl _⟩ (.inr rfl)
      fun _ front _ => front.2.length_le
  have found := @Lexeme.Longest.next lexeme alone [] (List.forall_mem_nil _) []
    (fun _ head => nomatch head) 0
  rw [List.nil_append, List.append_nil] at found
  rw [ofText_eq_ok_iff, String.toList_ofList, scan_of_found found, scan_of_finished rfl]
  rfl

/-- A token whose lexeme is the longest one of its own spelling. -/
def StandsAlone (token : Token) : Prop :=
  ∃ lexeme : Lexeme, lexeme.Longest lexeme.chars ∧ token.unplaced = ofLexeme 0 lexeme

theorem standsAlone_of_scan (position : Nat) (text : List Char) :
    ∀ token ∈ (scan position text).1, token.StandsAlone := by
  refine forall_mem_scan (fun position text token stop rest found => ?_) position text
  cases next_eq_iff.mp found with
  | @found blanks rest lexeme split blank visible longest =>
      exact ⟨lexeme, longest.of_front (List.prefix_refl _) (List.prefix_append _ _), rfl⟩

/-- A token with a number for its value is the numeral that its lexeme spells. -/
theorem StandsAlone.exists_numeral {token : Token} (alone : token.StandsAlone) {number : Number}
    (value : token.value = some (.number number)) :
    token.kind = .number ∧ ∃ numeral : Numeral, numeral.Grammatical ∧
      token.lexeme.toList = numeral.chars ∧ numeral.value = number := by
  obtain ⟨lexeme, longest, same⟩ := alone
  have kind : token.kind = lexeme.kind := congrArg Token.kind same
  have spelling : token.lexeme = String.ofList lexeme.chars := congrArg Token.lexeme same
  have known : token.value = lexeme.value.map Literal.number := congrArg Token.value same
  rw [value] at known
  cases longest.fronts.1 with
  | operator => cases known
  | bracket => cases known
  | @number numeral grammatical =>
      cases known
      exact ⟨kind, numeral, grammatical, by rw [spelling, String.toList_ofList], rfl⟩
  | identifier => cases known

/-- The lexemes of tokens, with a gap in front of each and one behind the last. -/
def layOut (gaps : List (List Char)) (tokens : List Token) (last : List Char) : List Char :=
  (List.zipWith (fun gap token => gap ++ token.lexeme.toList) gaps tokens).flatten ++ last

/-- The tokens at their places in such a text, which starts at a position. -/
def laidOut : Nat → List (List Char) → List Token → List Token
  | position, gap :: gaps, token :: tokens =>
    { token with position := (position + gap.length : Nat) } ::
      laidOut (position + gap.length + token.lexeme.toList.length) gaps tokens
  | _, _, _ => []

/-- Gaps of white space around tokens; only the first and the last one may be empty. -/
structure Gaps (gaps : List (List Char)) (tokens : List Token) (last : List Char) : Prop where
  length_eq : gaps.length = tokens.length
  blank : ∀ gap ∈ last :: gaps, Text.Blank gap
  apart : ∀ gap ∈ gaps.tail, gap ≠ []

namespace Gaps

variable {gap last : List Char} {gaps : List (List Char)} {token : Token}

theorem tail (spaced : Gaps (gap :: gaps) (token :: tokens) last) : Gaps gaps tokens last where
  length_eq := Nat.succ_injective spaced.length_eq
  blank := fun other member => spaced.blank other (by
    rcases List.mem_cons.mp member with rfl | later
    · exact List.mem_cons_self
    · exact List.mem_cons_of_mem _ (List.mem_cons_of_mem _ later))
  apart := fun other member => spaced.apart other (List.mem_of_mem_tail member)

/-- Behind a token stands white space, or nothing at all. -/
theorem head_layOut (spaced : Gaps (gap :: gaps) (token :: tokens) last) :
    ∀ c ∈ (layOut gaps tokens last).head?, Text.isBlank c = true := by
  intro c head
  rcases gaps with _ | ⟨second, gaps⟩
  · exact spaced.blank last List.mem_cons_self c (List.mem_of_mem_head? head)
  · rcases tokens with _ | ⟨next, tokens⟩
    · cases spaced.length_eq
    · obtain ⟨first, others, rfl⟩ :=
        List.exists_cons_of_ne_nil (spaced.apart second List.mem_cons_self)
      obtain rfl : first = c := Option.some.inj head
      exact spaced.blank (first :: others) (by simp) first List.mem_cons_self

end Gaps

/-- Tokens that stand alone are read again from whatever text they are laid out in. -/
theorem scan_layOut (alone : ∀ token ∈ tokens, token.StandsAlone) {gaps : List (List Char)}
    {last : List Char} (spaced : Gaps gaps tokens last) (position : Nat) :
    scan position (layOut gaps tokens last) = (laidOut position gaps tokens, none) := by
  induction tokens generalizing gaps position with
  | nil =>
      obtain rfl := List.length_eq_zero_iff.mp spaced.length_eq
      exact scan_of_finished (next_of_munches (.finished (spaced.blank last List.mem_cons_self)))
  | cons token tokens ih =>
      rcases gaps with _ | ⟨gap, gaps⟩
      · cases spaced.length_eq
      obtain ⟨lexeme, longest, same⟩ := alone token List.mem_cons_self
      have spelled : token.lexeme.toList = lexeme.chars := by
        have lexemes := congrArg Token.lexeme same
        rw [show token.lexeme = String.ofList lexeme.chars from lexemes, String.toList_ofList]
      have placed : ({ token with position := (position + gap.length : Nat) } : Token) =
          ofLexeme (position + gap.length) lexeme :=
        congrArg (fun other : Token =>
          { other with position := ((position + gap.length : Nat) : Int) }) same
      have text : layOut (gap :: gaps) (token :: tokens) last =
          gap ++ (lexeme.chars ++ layOut gaps tokens last) := by
        simp [layOut, spelled]
      have found := longest.next (spaced.blank gap (by simp)) spaced.head_layOut position
      rw [text, scan_of_found found, laidOut, spelled, placed,
        ih (fun other member => alone other (List.mem_cons_of_mem _ member)) spaced.tail]

@[simp] theorem length_laidOut {gaps : List (List Char)} {last : List Char}
    (spaced : Gaps gaps tokens last) (position : Nat) :
    (laidOut position gaps tokens).length = tokens.length := by
  induction tokens generalizing gaps position with
  | nil => cases gaps <;> rfl
  | cons token tokens ih =>
      rcases gaps with _ | ⟨gap, gaps⟩
      · cases spaced.length_eq
      · rw [laidOut, List.length_cons, List.length_cons, ih spaced.tail]

/-- Each token stands behind all that is laid out in front of it. -/
theorem getElem?_laidOut {gaps : List (List Char)} {index : Nat} {gap : List Char} {token : Token}
    (position : Nat) (before : gaps[index]? = some gap) (known : tokens[index]? = some token) :
    (laidOut position gaps tokens)[index]? = some { token with position :=
      (position + (layOut (gaps.take index) (tokens.take index) gap).length : Nat) } := by
  induction index generalizing position gaps tokens with
  | zero =>
      rcases gaps with _ | ⟨first, gaps⟩
      · cases before
      rcases tokens with _ | ⟨next, tokens⟩
      · cases known
      cases before
      cases known
      simp [laidOut, layOut]
  | succ index ih =>
      rcases gaps with _ | ⟨first, gaps⟩
      · cases before
      rcases tokens with _ | ⟨next, tokens⟩
      · cases known
      rw [laidOut, List.getElem?_cons_succ, ih _ before known]
      simp [layOut, Nat.add_assoc]

end Token

end Calculator
