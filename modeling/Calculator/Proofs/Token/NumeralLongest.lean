import Calculator.Proofs.Token.Numeral

/-!
# The longest numeral

The numerals of the language (`Numeral.Grammatical`) are digits behind a base marker, and
decimal digits with at most one point and at most one complete exponent. What is read off
the front of a text is such a numeral (`Numeral.grammatical_of_read?`), and no numeral at
the front of the text is longer (`Numeral.length_le_of_read?`): what is left of the text
behind any numeral contains what the reader leaves. A spelling belongs to one numeral
only (`Numeral.eq_of_chars_eq`).
-/

namespace Calculator

namespace Numeral

/-- The digits of the bases that have a marker. -/
def alphabet (base : Nat) : List Char :=
  if base = 16 then "0123456789abcdefABCDEF".toList
  else if base = 8 then "01234567".toList
  else if base = 2 then "01".toList
  else []

/-- The numerals: a marker with digits of its base, or decimal digits, before or behind
the point, with a complete exponent or none. -/
inductive Grammatical : Numeral → Prop
  | based {marker : Char} {base : Nat} {digits : List Char} (announced : baseOf? marker = some base)
      (nonempty : digits ≠ []) (inside : ∀ c ∈ digits, c ∈ alphabet base) :
      Grammatical (based marker digits)
  | decimal {whole : List Char} {fraction : Option (List Char)} {exponent : Option Exponent}
      (nonempty : whole ≠ [] ∨ fraction.getD [] ≠ [])
      (inside : ∀ c ∈ whole ++ fraction.getD [], c.isDigit = true)
      (complete : ∀ exponent' ∈ exponent, exponent'.Written) :
      Grammatical (decimal whole fraction exponent)

theorem base_of_baseOf? {marker : Char} {base : Nat} (announced : baseOf? marker = some base) :
    base = 16 ∨ base = 8 ∨ base = 2 := by
  unfold baseOf? at announced
  split at announced
  · exact .inl (Option.some.inj announced).symm
  split at announced
  · exact .inr (.inl (Option.some.inj announced).symm)
  split at announced
  · exact .inr (.inr (Option.some.inj announced).symm)
  · cases announced

/-- Digits are ASCII characters. -/
theorem toNat_lt_of_isDigitOf {base : Nat} {c : Char} (digit : isDigitOf base c = true) :
    c.toNat < 128 := by
  have bounded : ∀ d : Char, d.toNat < 128 → c ≤ d → c.toNat < 128 :=
    fun d small below => Nat.lt_of_le_of_lt (UInt32.le_iff_toNat_le.mp below) small
  unfold isDigitOf digitValue? at digit
  split at digit
  · rename_i value found
    split at found
    · rename_i decimal
      simp only [Char.isDigit, Bool.and_eq_true, decide_eq_true_eq] at decimal
      exact bounded '9' (by decide) decimal.2
    split at found
    · rename_i small
      exact bounded 'f' (by decide) small.2
    split at found
    · rename_i capital
      exact bounded 'F' (by decide) capital.2
    · cases found
  · cases digit

/-- A property of all ASCII characters, checked code by code. -/
theorem forall_ascii {p : Char → Prop} (listed : ∀ code : Fin 128, p (Char.ofNat code)) :
    ∀ c : Char, c.toNat < 128 → p c := by
  intro c ascii
  have known := listed ⟨c.toNat, ascii⟩
  rwa [Char.ofNat_toNat] at known

theorem mem_alphabet_iff {marker : Char} {base : Nat} (announced : baseOf? marker = some base)
    (c : Char) : c ∈ alphabet base ↔ isDigitOf base c = true := by
  have listed : ∀ c : Char, c.toNat < 128 → ∀ base ∈ [16, 8, 2],
      (c ∈ alphabet base ↔ isDigitOf base c = true) :=
    forall_ascii (by decide +kernel)
  have ascii : ∀ base ∈ [16, 8, 2], (alphabet base).all (·.toNat < 128) = true := by
    decide +kernel
  have known : base ∈ [16, 8, 2] := by simpa using base_of_baseOf? announced
  by_cases small : c.toNat < 128
  · exact listed c small base known
  · have outside : c ∉ alphabet base := fun member =>
      small (of_decide_eq_true (List.all_eq_true.mp (ascii base known) c member))
    exact ⟨(absurd · outside), fun digit => absurd (toNat_lt_of_isDigitOf digit) small⟩

end Numeral

/-- What is read as an exponent is complete and stands at the front of the text. -/
theorem Exponent.written_of_read? {text rest : List Char} {exponent : Exponent}
    (read : Exponent.read? text = some (exponent, rest)) :
    exponent.Written ∧ text = exponent.chars ++ rest := by
  have finished : ∀ {mark : Char} {sign : Option Char} {text : List Char},
      mark = 'e' ∨ mark = 'E' → (∀ c ∈ sign, c = '+' ∨ c = '-') →
      read?.finish mark sign text = some (exponent, rest) →
        exponent.Written ∧ mark :: (sign.toList ++ text) = exponent.chars ++ rest := by
    intro mark sign text marked signed read
    unfold read?.finish at read
    simp only at read
    split at read
    · cases read
    · rename_i nonempty
      cases read
      refine ⟨⟨marked, signed, nonempty, fun c => List.mem_takeWhile_imp⟩, ?_⟩
      simp [chars, List.takeWhile_append_dropWhile]
  unfold Exponent.read? at read
  split at read
  · split at read
    · rename_i marked
      split at read
      · split at read
        · rename_i sign signed signs
          exact finished marked (by rintro c ⟨⟩; exact signs) read
        · exact finished marked (by rintro c ⟨⟩) read
      · cases read
    · cases read
  · cases read

namespace Numeral

theorem readBased?_of_grammatical {marker : Char} {base : Nat} {digits : List Char}
    (announced : baseOf? marker = some base) (nonempty : digits ≠ [])
    (inside : ∀ c ∈ digits, c ∈ alphabet base) (rest : List Char) :
    readBased? ((based marker digits).chars ++ rest) =
      some (based marker (digits ++ rest.takeWhile (isDigitOf base)),
        rest.dropWhile (isDigitOf base)) := by
  have all : ∀ c ∈ digits, isDigitOf base c = true :=
    fun c member => (mem_alphabet_iff announced c).mp (inside c member)
  have more : digits ++ rest.takeWhile (isDigitOf base) ≠ [] := by
    intro none
    exact nonempty (List.append_eq_nil_iff.mp none).1
  simp only [chars, List.cons_append, readBased?, announced, List.takeWhile_append_of_pos all,
    List.dropWhile_append_of_pos all, more, ↓reduceIte]

theorem grammatical_of_readBased? {text rest : List Char} {numeral : Numeral}
    (read : readBased? text = some (numeral, rest)) :
    numeral.Grammatical ∧ text = numeral.chars ++ rest := by
  unfold readBased? at read
  split at read
  · split at read
    · rename_i base announced
      simp only at read
      split at read
      · cases read
      · rename_i nonempty
        cases read
        refine ⟨.based announced nonempty fun c member => ?_, ?_⟩
        · exact (mem_alphabet_iff announced c).mpr (List.mem_takeWhile_imp member)
        · simp [chars, List.takeWhile_append_dropWhile]
    · cases read
  · cases read

/-- What is read as the digits of a decimal numeral. -/
theorem digits_of_readDigits? {text whole rest : List Char} {fraction : Option (List Char)}
    (read : readDigits? text = some (whole, fraction, rest)) :
    (whole ≠ [] ∨ fraction.getD [] ≠ []) ∧
      (∀ c ∈ whole ++ fraction.getD [], c.isDigit = true) ∧
      text = whole ++ (fraction.elim [] ('.' :: ·) ++ rest) := by
  have front := List.takeWhile_append_dropWhile (p := Char.isDigit) (l := text)
  unfold readDigits? at read
  simp only at read
  split at read
  · rename_i tail point
    split at read
    · cases read
    · rename_i nonempty
      cases read
      refine ⟨not_and_or.mp nonempty, fun c member => ?_, ?_⟩
      · rcases List.mem_append.mp member with member | member
        · exact List.mem_takeWhile_imp member
        · exact List.mem_takeWhile_imp member
      · simp only [Option.elim_some, List.cons_append, List.takeWhile_append_dropWhile]
        rw [← point, front]
  · split at read
    · cases read
    · rename_i nonempty
      cases read
      refine ⟨.inl nonempty, fun c member => ?_, ?_⟩
      · exact List.mem_takeWhile_imp (by simpa using member)
      · simp [front]

theorem grammatical_of_readDecimal? {text rest : List Char} {numeral : Numeral}
    (read : readDecimal? text = some (numeral, rest)) :
    numeral.Grammatical ∧ text = numeral.chars ++ rest := by
  unfold readDecimal? at read
  split at read
  · rename_i whole fraction tail digits
    obtain ⟨nonempty, inside, rfl⟩ := digits_of_readDigits? digits
    split at read
    · rename_i exponent behind complete
      cases read
      obtain ⟨written, rfl⟩ := Exponent.written_of_read? complete
      refine ⟨.decimal nonempty inside (by rintro other ⟨⟩; exact written), ?_⟩
      simp [chars]
    · cases read
      refine ⟨.decimal nonempty inside (by rintro other ⟨⟩), ?_⟩
      simp [chars]
  · cases read

/-- What is read is a numeral at the front of the text. -/
theorem grammatical_of_read? {text rest : List Char} {numeral : Numeral}
    (read : read? text = some (numeral, rest)) :
    numeral.Grammatical ∧ text = numeral.chars ++ rest := by
  unfold read? at read
  cases based : readBased? text with
  | some reading =>
      rw [based] at read
      obtain rfl : reading = (numeral, rest) := Option.some.inj read
      exact grammatical_of_readBased? based
  | none =>
      rw [based] at read
      exact grammatical_of_readDecimal? read

/-- Digits and places are read with everything that goes on behind them, and alone where
neither a digit nor a point follows. -/
theorem exists_readDigits? {whole : List Char} {fraction : Option (List Char)}
    (nonempty : whole ≠ [] ∨ fraction.getD [] ≠ [])
    (inside : ∀ c ∈ whole ++ fraction.getD [], c.isDigit = true) (rest : List Char) :
    ∃ whole' fraction' behind,
      readDigits? (whole ++ (fraction.elim [] ('.' :: ·) ++ rest)) =
        some (whole', fraction', behind) ∧ behind <:+ rest ∧
      ((∀ c ∈ rest.head?, c.isDigit = false ∧ c ≠ '.') →
        whole' = whole ∧ fraction' = fraction ∧ behind = rest) := by
  have before : ∀ c ∈ whole, c.isDigit = true := fun c member => inside c (by simp [member])
  have suffix : rest.dropWhile Char.isDigit <:+ rest := List.dropWhile_suffix _
  have stopped : (∀ c ∈ rest.head?, c.isDigit = false ∧ c ≠ '.') →
      rest.takeWhile Char.isDigit = [] ∧ rest.dropWhile Char.isDigit = rest := by
    intro stop
    have digitless : ∀ c ∈ rest.head?, c.isDigit = false := fun c head => (stop c head).1
    exact ⟨@takeWhile_append_stop _ [] _ (List.forall_mem_nil _) digitless,
      @dropWhile_append_stop _ [] _ (List.forall_mem_nil _) digitless⟩
  cases fraction with
  | some places =>
      have after : ∀ c ∈ places, c.isDigit = true := fun c member => inside c (by simp [member])
      have point : ∀ c ∈ ('.' :: (places ++ rest)).head?, c.isDigit = false := by
        rintro c ⟨⟩
        rfl
      have present : ¬ (whole = [] ∧ places ++ rest.takeWhile Char.isDigit = []) := by
        rintro ⟨none, empty⟩
        exact nonempty.elim (· none) (· (List.append_eq_nil_iff.mp empty).1)
      refine ⟨whole, some (places ++ rest.takeWhile Char.isDigit), _, ?_, suffix,
        fun stop => ⟨rfl, ?_, (stopped stop).2⟩⟩
      · simp only [Option.elim_some, List.cons_append, readDigits?,
          takeWhile_append_stop before point, dropWhile_append_stop before point,
          List.takeWhile_append_of_pos after, List.dropWhile_append_of_pos after, present,
          ↓reduceIte]
      · rw [(stopped stop).1, List.append_nil]
  | none =>
      have present : whole ++ rest.takeWhile Char.isDigit ≠ [] := by
        intro none
        exact nonempty.elim (· (List.append_eq_nil_iff.mp none).1) (· rfl)
      simp only [Option.elim_none, List.nil_append, readDigits?,
        List.takeWhile_append_of_pos before, List.dropWhile_append_of_pos before]
      split
      · rename_i tail point
        have shorter : tail.dropWhile Char.isDigit <:+ rest :=
          ((List.dropWhile_suffix _).trans (List.suffix_cons '.' tail)).trans (point ▸ suffix)
        simp only [present, false_and, ↓reduceIte]
        refine ⟨_, _, _, rfl, shorter, fun stop => ?_⟩
        rw [(stopped stop).2] at point
        exact absurd rfl (stop '.' (by rw [point]; rfl)).2
      · simp only [present, ↓reduceIte]
        refine ⟨_, _, _, rfl, suffix, fun stop => ⟨?_, rfl, (stopped stop).2⟩⟩
        rw [(stopped stop).1, List.append_nil]

/-- Behind the digits the exponent is read, with all digits that follow, or one that
follows where there was none. -/
theorem exists_readDecimal?_of_readDigits? {text whole rest : List Char}
    {fraction : Option (List Char)} {exponent : Option Exponent}
    (complete : ∀ exponent' ∈ exponent, exponent'.Written)
    (digits : readDigits? text = some (whole, fraction, exponent.elim [] Exponent.chars ++ rest)) :
    ∃ exponent' behind, readDecimal? text = some (decimal whole fraction exponent', behind) ∧
      behind <:+ rest ∧ (rest = [] → exponent' = exponent) := by
  cases exponent with
  | some exponent =>
      have read := Exponent.read?_of_written (complete exponent rfl) rest
      rw [Option.elim_some] at digits
      refine ⟨some ⟨exponent.mark, exponent.sign, exponent.digits ++ rest.takeWhile Char.isDigit⟩,
        rest.dropWhile Char.isDigit, by simp only [readDecimal?, digits, read],
        List.dropWhile_suffix _, ?_⟩
      rintro rfl
      simp
  | none =>
      rw [Option.elim_none, List.nil_append] at digits
      cases read : Exponent.read? rest with
      | some reading =>
          obtain ⟨exponent, behind⟩ := reading
          obtain ⟨-, rfl⟩ := Exponent.written_of_read? read
          refine ⟨some exponent, behind, by simp only [readDecimal?, digits, read],
            List.suffix_append _ _, fun empty => ?_⟩
          cases empty
      | none =>
          exact ⟨none, rest, by simp only [readDecimal?, digits, read], List.suffix_refl rest,
            fun _ => rfl⟩

/-- The characters of a decimal numeral. -/
theorem isDigit_or_mem_of_mem_decimal {whole : List Char} {fraction : Option (List Char)}
    {exponent : Option Exponent} (inside : ∀ c ∈ whole ++ fraction.getD [], c.isDigit = true)
    (complete : ∀ exponent' ∈ exponent, exponent'.Written) :
    ∀ c ∈ (decimal whole fraction exponent).chars,
      c.isDigit = true ∨ c ∈ ['.', 'e', 'E', '+', '-'] := by
  intro c member
  simp only [chars, List.mem_append] at member
  rcases member with (member | member) | member
  · exact .inl (inside c (List.mem_append_left _ member))
  · cases fraction with
    | none => cases member
    | some places =>
        rcases List.mem_cons.mp member with rfl | member
        · exact .inr List.mem_cons_self
        · exact .inl (inside c (List.mem_append_right _ member))
  · cases exponent with
    | none => cases member
    | some exponent =>
        have written := complete exponent rfl
        simp only [Option.elim_some, Exponent.chars, List.mem_cons, List.mem_append,
          Option.mem_toList] at member
        rcases member with rfl | member | member
        · rcases written.mark with mark | mark <;> simp [mark]
        · rcases written.sign c member with rfl | rfl <;> simp
        · exact .inl (written.digits c member)

/-- No character of a decimal numeral announces a base. -/
theorem baseOf?_of_mem_decimal {whole : List Char} {fraction : Option (List Char)}
    {exponent : Option Exponent} (inside : ∀ c ∈ whole ++ fraction.getD [], c.isDigit = true)
    (complete : ∀ exponent' ∈ exponent, exponent'.Written) :
    ∀ c ∈ (decimal whole fraction exponent).chars, baseOf? c = none := by
  have marks : ∀ c ∈ ['.', 'e', 'E', '+', '-'], baseOf? c = none := by simp [baseOf?]
  intro c member
  rcases isDigit_or_mem_of_mem_decimal inside complete c member with digit | mark
  · exact baseOf?_eq_none (.inl digit)
  · exact marks c mark

/-- Digits behind a base marker are read at a decimal numeral only if it is a single zero,
and then the marker stands behind it. -/
theorem suffix_of_readBased? {whole : List Char} {fraction : Option (List Char)}
    {exponent : Option Exponent} (nonempty : whole ≠ [] ∨ fraction.getD [] ≠ [])
    (inside : ∀ c ∈ whole ++ fraction.getD [], c.isDigit = true)
    (complete : ∀ exponent' ∈ exponent, exponent'.Written) {rest behind : List Char}
    {numeral : Numeral}
    (read : readBased? ((decimal whole fraction exponent).chars ++ rest) = some (numeral, behind)) :
    behind <:+ rest ∧ rest ≠ [] := by
  obtain ⟨grammatical, same⟩ := grammatical_of_readBased? read
  have markerless := baseOf?_of_mem_decimal inside complete
  unfold readBased? at read
  split at read
  · rename_i marker tail split
    split at read
    · rename_i base announced
      simp only at read
      split at read
      · cases read
      · obtain ⟨-, rfl⟩ := Prod.mk.inj (Option.some.inj read)
        rcases front : (decimal whole fraction exponent).chars with
          _ | ⟨first, _ | ⟨second, others⟩⟩
        · simp only [chars, List.append_eq_nil_iff] at front
          rcases fraction with _ | places
          · exact absurd front.1.1 (nonempty.resolve_right (· rfl))
          · cases front.1.2
        · rw [front] at split
          obtain rfl : rest = marker :: tail := (List.cons.inj split).2
          exact ⟨(List.dropWhile_suffix _).trans (List.suffix_cons _ _), List.cons_ne_nil _ _⟩
        · rw [front] at split markerless
          obtain rfl : second = marker := (List.cons.inj (List.cons.inj split).2).1
          rw [markerless second (by simp)] at announced
          cases announced
    · cases read
  · cases read

theorem exists_readDecimal? {whole : List Char} {fraction : Option (List Char)}
    {exponent : Option Exponent} (nonempty : whole ≠ [] ∨ fraction.getD [] ≠ [])
    (inside : ∀ c ∈ whole ++ fraction.getD [], c.isDigit = true)
    (complete : ∀ exponent' ∈ exponent, exponent'.Written) (rest : List Char) :
    ∃ longest behind, readDecimal? ((decimal whole fraction exponent).chars ++ rest) =
        some (longest, behind) ∧
      behind <:+ rest ∧ (rest = [] → longest = decimal whole fraction exponent) := by
  have split : (decimal whole fraction exponent).chars ++ rest =
      whole ++ (fraction.elim [] ('.' :: ·) ++ (exponent.elim [] Exponent.chars ++ rest)) := by
    simp [chars]
  rw [split]
  obtain ⟨whole', fraction', tail, digits, suffix, alone⟩ :=
    exists_readDigits? nonempty inside (exponent.elim [] Exponent.chars ++ rest)
  cases exponent with
  | some exponent =>
      -- The mark of the exponent ends the digits.
      have stop : ∀ c ∈ ((some exponent).elim [] Exponent.chars ++ rest).head?,
          c.isDigit = false ∧ c ≠ '.' := by
        rintro c ⟨⟩
        rcases (complete exponent rfl).mark with mark | mark <;> rw [mark] <;> decide
      obtain ⟨rfl, rfl, rfl⟩ := alone stop
      obtain ⟨exponent', behind, read, shorter, same⟩ :=
        exists_readDecimal?_of_readDigits? complete digits
      exact ⟨_, behind, read, shorter, fun empty => by rw [same empty]⟩
  | none =>
      obtain ⟨exponent', behind, read, shorter, same⟩ :=
        @exists_readDecimal?_of_readDigits? _ _ _ _ none complete digits
      refine ⟨_, behind, read, shorter.trans suffix, ?_⟩
      rintro rfl
      obtain ⟨rfl, rfl, rfl⟩ := alone (by rintro c ⟨⟩)
      rw [same rfl]

/-- A numeral at the front of a text is read back where the text ends; elsewhere the
reader may go on behind it. -/
theorem exists_read? {numeral : Numeral} (grammatical : numeral.Grammatical) (rest : List Char) :
    ∃ longest behind, read? (numeral.chars ++ rest) = some (longest, behind) ∧
      behind <:+ rest ∧ (rest = [] → longest = numeral) := by
  unfold read?
  cases grammatical with
  | based announced nonempty inside =>
      rw [readBased?_of_grammatical announced nonempty inside]
      refine ⟨_, _, rfl, List.dropWhile_suffix _, ?_⟩
      rintro rfl
      simp
  | @decimal whole fraction exponent nonempty inside complete =>
      cases based : readBased? ((decimal whole fraction exponent).chars ++ rest) with
      | some reading =>
          have suffix := suffix_of_readBased? nonempty inside complete based
          exact ⟨reading.1, reading.2, rfl, suffix.1, (absurd · suffix.2)⟩
      | none => exact exists_readDecimal? nonempty inside complete rest

/-- No numeral at the front of a text is longer than the one that is read. -/
theorem length_le_of_read? {numeral longest : Numeral} {text behind : List Char}
    (read : read? text = some (longest, behind)) (grammatical : numeral.Grammatical)
    (front : numeral.chars <+: text) : numeral.chars.length ≤ longest.chars.length := by
  obtain ⟨rest, rfl⟩ := front
  obtain ⟨longest', behind', read', shorter, -⟩ := exists_read? grammatical rest
  obtain ⟨rfl, rfl⟩ := Prod.mk.inj (Option.some.inj (read'.symm.trans read))
  have whole := congrArg List.length (grammatical_of_read? read).2
  have left := shorter.length_le
  simp only [List.length_append] at whole
  omega

/-- A text that starts with a numeral is read. -/
theorem read?_ne_none {numeral : Numeral} {text : List Char} (grammatical : numeral.Grammatical)
    (front : numeral.chars <+: text) : read? text ≠ none := by
  obtain ⟨rest, rfl⟩ := front
  obtain ⟨longest, behind, read, -⟩ := exists_read? grammatical rest
  rw [read]
  exact Option.some_ne_none _

/-- Two numerals that are spelled the same are the same. -/
theorem eq_of_chars_eq {numeral other : Numeral} (grammatical : numeral.Grammatical)
    (otherwise : other.Grammatical) (same : numeral.chars = other.chars) : numeral = other := by
  obtain ⟨longest, _, read, -, here⟩ := exists_read? grammatical []
  obtain ⟨longest', _, read', -, there⟩ := exists_read? otherwise []
  rw [same, read'] at read
  obtain ⟨rfl, -⟩ := Prod.mk.inj (Option.some.inj read)
  exact (here rfl).symm.trans (there rfl)

/-- A numeral starts with a digit or with the point. -/
theorem head_of_grammatical {numeral : Numeral} (grammatical : numeral.Grammatical) :
    ∃ first others, numeral.chars = first :: others ∧ (first.isDigit = true ∨ first = '.') := by
  cases grammatical with
  | based => exact ⟨_, _, rfl, .inl rfl⟩
  | @decimal whole fraction exponent nonempty inside complete =>
      cases whole with
      | cons first others => exact ⟨_, _, rfl, .inl (inside first (by simp))⟩
      | nil =>
          cases fraction with
          | some places => exact ⟨_, _, rfl, .inr rfl⟩
          | none => exact absurd rfl (nonempty.resolve_left (· rfl))

end Numeral

end Calculator
