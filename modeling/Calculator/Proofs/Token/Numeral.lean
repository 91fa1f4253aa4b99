import Calculator.Text.Blank
import Calculator.Token.Scan
import Mathlib

/-!
# Numerals read back

A decimal numeral is read back from its spelling if it is followed by nothing, by a space
or by another character that no numeral goes on with (`Numeral.read?_decimal`).
-/

namespace Calculator

/-- Nothing, or a space: no lexeme can go on here. -/
def Delimited (text : List Char) : Prop := text = [] ∨ ∃ rest, text = ' ' :: rest

theorem Delimited.head {text : List Char} (delimited : Delimited text) :
    ∀ c ∈ text.head?, c = ' ' := by
  rcases delimited with rfl | ⟨rest, rfl⟩
  · exact fun _ impossible => absurd impossible (Option.not_mem_none _)
  · rintro c ⟨⟩
    rfl

section Split

variable {p : Char → Bool} {front rest : List Char}

theorem takeWhile_append_stop (inside : ∀ c ∈ front, p c = true)
    (stop : ∀ c ∈ rest.head?, p c = false) : (front ++ rest).takeWhile p = front := by
  rw [List.takeWhile_append_of_pos inside]
  cases rest with
  | nil => simp
  | cons c rest => simp [stop c rfl]

theorem dropWhile_append_stop (inside : ∀ c ∈ front, p c = true)
    (stop : ∀ c ∈ rest.head?, p c = false) : (front ++ rest).dropWhile p = rest := by
  rw [List.dropWhile_append_of_pos inside]
  cases rest with
  | nil => rfl
  | cons c rest => simp [stop c rfl]

end Split

/-- An exponent as it is written: a mark, a sign or none, and digits. -/
structure Exponent.Written (exponent : Exponent) : Prop where
  mark : exponent.mark = 'e' ∨ exponent.mark = 'E'
  sign : ∀ sign ∈ exponent.sign, sign = '+' ∨ sign = '-'
  nonempty : exponent.digits ≠ []
  digits : ∀ c ∈ exponent.digits, c.isDigit = true

/-- A complete exponent at the front of a text is read with all digits that follow. -/
theorem Exponent.read?_of_written {exponent : Exponent} (written : exponent.Written)
    (rest : List Char) :
    Exponent.read? (exponent.chars ++ rest) =
      some (⟨exponent.mark, exponent.sign, exponent.digits ++ rest.takeWhile Char.isDigit⟩,
        rest.dropWhile Char.isDigit) := by
  obtain ⟨mark, sign, digits⟩ := exponent
  obtain ⟨marked, signed, nonempty, all⟩ := written
  have finished : ∀ sign, read?.finish mark sign (digits ++ rest) =
      some (⟨mark, sign, digits ++ rest.takeWhile Char.isDigit⟩, rest.dropWhile Char.isDigit) := by
    intro sign
    have more : digits ++ rest.takeWhile Char.isDigit ≠ [] := by
      intro none
      exact nonempty (List.append_eq_nil_iff.mp none).1
    unfold read?.finish
    simp only [List.takeWhile_append_of_pos all, List.dropWhile_append_of_pos all, more, ↓reduceIte]
  simp only at marked nonempty
  cases sign with
  | some sign =>
      have known : sign = '+' ∨ sign = '-' := signed sign rfl
      simp only [chars, read?, List.cons_append, Option.toList_some, List.nil_append, marked, known,
        ↓reduceIte, finished]
  | none =>
      obtain ⟨first, others, rfl⟩ := List.exists_cons_of_ne_nil nonempty
      have unsigned : ¬ (first = '+' ∨ first = '-') := by
        have digit := all first List.mem_cons_self
        rintro (rfl | rfl) <;> cases digit
      simp only [chars, read?, List.cons_append, Option.toList_none, List.nil_append, marked,
        unsigned, ↓reduceIte]
      exact finished none

/-- Nothing, or a character that no decimal numeral goes on with. -/
def Numeral.Ended (text : List Char) : Prop :=
  ∀ c ∈ text.head?, c.isDigit = false ∧ c ≠ '.' ∧ ¬ (c = 'e' ∨ c = 'E') ∧ baseOf? c = none

theorem Delimited.ended {text : List Char} (delimited : Delimited text) : Numeral.Ended text := by
  intro c head
  rw [delimited.head c head]
  decide

theorem Exponent.read?_append {exponent : Exponent} (written : exponent.Written) {rest : List Char}
    (ended : Numeral.Ended rest) :
    Exponent.read? (exponent.chars ++ rest) = some (exponent, rest) := by
  have stop : ∀ c ∈ rest.head?, c.isDigit = false := fun c head => (ended c head).1
  have none : rest.takeWhile Char.isDigit = [] :=
    @takeWhile_append_stop _ [] _ (List.forall_mem_nil _) stop
  have all : rest.dropWhile Char.isDigit = rest :=
    @dropWhile_append_stop _ [] _ (List.forall_mem_nil _) stop
  rw [read?_of_written written, none, all, List.append_nil]

namespace Numeral

/-- A decimal numeral as it is written: digits, places or none, and an exponent or
none. -/
structure Written (whole : List Char) (fraction : Option (List Char))
    (exponent : Option Exponent) : Prop where
  nonempty : whole ≠ []
  whole : ∀ c ∈ whole, c.isDigit = true
  fraction : ∀ places ∈ fraction, ∀ c ∈ places, c.isDigit = true
  exponent : ∀ exponent' ∈ exponent, exponent'.Written

variable {whole : List Char} {fraction : Option (List Char)} {exponent : Option Exponent}
  {rest : List Char}

theorem exponent_read? (written : ∀ exponent' ∈ exponent, exponent'.Written)
    (ended : Ended rest) :
    Exponent.read? (exponent.elim [] Exponent.chars ++ rest) =
      exponent.map fun exponent => (exponent, rest) := by
  cases exponent with
  | some exponent => exact Exponent.read?_append (written exponent rfl) ended
  | none =>
      cases rest with
      | nil => rfl
      | cons c tail => exact if_neg (ended c rfl).2.2.1

/-- Behind the digits stands a mark or what follows the numeral. It is no digit and no
point, and it announces no base. -/
theorem head_exponent (written : ∀ exponent' ∈ exponent, exponent'.Written)
    (ended : Ended rest) :
    ∀ c ∈ (exponent.elim [] Exponent.chars ++ rest).head?,
      c.isDigit = false ∧ c ≠ '.' ∧ baseOf? c = none := by
  cases exponent with
  | some exponent =>
      rintro c ⟨⟩
      rcases (written exponent rfl).mark with mark | mark <;> rw [mark] <;> decide
  | none =>
      intro c head
      obtain ⟨digitless, pointless, -, plain⟩ := ended c head
      exact ⟨digitless, pointless, plain⟩

theorem readDigits?_append (written : Written whole fraction exponent)
    (ended : Ended rest) :
    readDigits? ((decimal whole fraction exponent).chars ++ rest) =
      some (whole, fraction, exponent.elim [] Exponent.chars ++ rest) := by
  have marks := head_exponent written.exponent ended
  have stop : ∀ c ∈ (exponent.elim [] Exponent.chars ++ rest).head?, c.isDigit = false :=
    fun c head => (marks c head).1
  unfold readDigits?
  cases fraction with
  | some places =>
      have split : (decimal whole (some places) exponent).chars ++ rest =
          whole ++ '.' :: (places ++ (exponent.elim [] Exponent.chars ++ rest)) := by
        simp [chars]
      have point : ∀ c ∈ ('.' :: (places ++ (exponent.elim [] Exponent.chars ++ rest))).head?,
          c.isDigit = false := by
        rintro c ⟨⟩
        rfl
      rw [split, takeWhile_append_stop written.whole point,
        dropWhile_append_stop written.whole point]
      simp only [takeWhile_append_stop (written.fraction places rfl) stop,
        dropWhile_append_stop (written.fraction places rfl) stop, written.nonempty, false_and,
        ↓reduceIte]
  | none =>
      have split : (decimal whole none exponent).chars ++ rest =
          whole ++ (exponent.elim [] Exponent.chars ++ rest) := by
        simp [chars]
      rw [split, takeWhile_append_stop written.whole stop, dropWhile_append_stop written.whole stop]
      split
      · rename_i tail point
        exact absurd rfl (marks '.' (by rw [point]; rfl)).2.1
      · simp only [written.nonempty, ↓reduceIte]

/-- No base is announced by what can stand behind a digit. -/
theorem baseOf?_eq_none {marker : Char} (known : marker.isDigit = true ∨ marker = '.') :
    baseOf? marker = none := by
  unfold baseOf?
  rcases known with digit | rfl
  · have different : ∀ c : Char, c.isDigit = false → marker ≠ c := by
      rintro c letter rfl
      rw [letter] at digit
      cases digit
    simp [different 'x' rfl, different 'X' rfl, different 'o' rfl, different 'O' rfl,
      different 'b' rfl, different 'B' rfl]
  · rfl

theorem readBased?_append (written : Written whole fraction exponent)
    (ended : Ended rest) :
    readBased? ((decimal whole fraction exponent).chars ++ rest) = none := by
  obtain ⟨first, others, rfl⟩ := List.exists_cons_of_ne_nil written.nonempty
  have second : ∀ c ∈ (others ++ (fraction.elim [] ('.' :: ·) ++
      (exponent.elim [] Exponent.chars ++ rest))).head?, baseOf? c = none := by
    intro c head
    cases others with
    | cons next others =>
        cases head
        exact baseOf?_eq_none (.inl (written.whole c (by simp)))
    | nil =>
        cases fraction with
        | some places =>
            cases head
            exact baseOf?_eq_none (.inr rfl)
        | none => exact (head_exponent written.exponent ended c head).2.2
  have split : (decimal (first :: others) fraction exponent).chars ++ rest =
      first :: (others ++ (fraction.elim [] ('.' :: ·) ++
        (exponent.elim [] Exponent.chars ++ rest))) := by
    simp [chars]
  rw [split]
  unfold readBased?
  split
  · rename_i marker tail same
    obtain ⟨-, behind⟩ := List.cons.inj same
    rw [behind] at second
    rw [second marker rfl]
  · rfl

/-- A decimal numeral is read back from its spelling. -/
theorem read?_decimal (written : Written whole fraction exponent) (ended : Ended rest) :
    read? ((decimal whole fraction exponent).chars ++ rest) =
      some (decimal whole fraction exponent, rest) := by
  unfold read? readDecimal?
  rw [readBased?_append written ended, readDigits?_append written ended]
  simp only [exponent_read? written.exponent ended]
  cases exponent <;> rfl

end Numeral

end Calculator
