import Calculator.Evaluator.Real
import Calculator.Parse
import Calculator.Proofs.Binary64.Integer
import Calculator.Proofs.Evaluator.Calls

/-!
# Sums of words

`sum` adds integers that fit into a signed machine word as such words. What it returns is the
binary64 number nearest to the sum as it has wrapped around, which is the number nearest to the
sum itself only as long as this is a word again (`Evaluator.evaluate_sum`).
-/

namespace Calculator

/-- Whether an integer fits into a machine word with a sign. -/
def IsWord (n : Int) : Prop := -0x8000000000000000 ≤ n ∧ n < 0x8000000000000000

theorem isWord_bmod (n : Int) : IsWord (n.bmod 0x10000000000000000) := by
  rw [Int.bmod_def, IsWord]
  split <;> omega

theorem bmod_eq_iff_isWord {n : Int} : n.bmod 0x10000000000000000 = n ↔ IsWord n :=
  ⟨fun same => same ▸ isWord_bmod n, fun word => Int.bmod_eq_of_le word.1 word.2⟩

/-- An integer that wraps around but keeps its sign is twice as far from zero as any word. -/
theorem two_pow_le_abs_of_bmod_ne {n : Int} (signs : n < 0 ↔ n.bmod 0x10000000000000000 < 0)
    (wraps : n.bmod 0x10000000000000000 ≠ n) : 2 ^ 64 ≤ |n| := by
  obtain ⟨least, greatest⟩ := isWord_bmod n
  obtain ⟨turns, split⟩ : (0x10000000000000000 : Int) ∣ n - n.bmod 0x10000000000000000 :=
    Int.dvd_self_sub_bmod
  refine le_abs.mpr ?_
  rcases lt_trichotomy turns 0 with back | rfl | forth
  · exact .inr (by omega)
  · exact absurd (by omega) wraps
  · exact .inl (by omega)

namespace Sample

theorem entries_int (n : Int) : (Value.int n).entries = .ok ([], [.int n]) := by
  rw [Value.entries] <;> exact fun _ => nofun

/-- Integers make a row without further dimensions. -/
theorem entriesOfAll_ints (numbers : List Int) :
    Value.entriesOfAll (numbers.map .int) = .ok ([numbers.length], numbers.map .int) := by
  induction numbers with
  | nil => rw [List.map_nil, Value.entriesOfAll]; rfl
  | cons first rest ih =>
      cases rest with
      | nil =>
          rw [List.map_cons, List.map_nil, Value.entriesOfAll, entries_int]
          rfl
      | cons second rest =>
          rw [List.map_cons, List.map_cons, Value.entriesOfAll, ← List.map_cons, ih, entries_int]
          · rfl
          · simp

theorem storage_of_isWord {n : Int} (word : IsWord n) : storage (.int n) = .signedWord :=
  if_pos word

section Words

variable {numbers : List Int} (words : ∀ n ∈ numbers, IsWord n)
include words

/-- Words are stored as words. -/
theorem ofNumbers_words (nonempty : numbers ≠ []) :
    ofNumbers (numbers.map fun n => (storage (.int n), .int n)) = .ok (.words true numbers) := by
  have stored : (numbers.map fun n => (storage (.int n), Scalar.int n)) =
      numbers.map fun n => (.signedWord, .int n) :=
    List.map_congr_left fun n member => by rw [storage_of_isWord (words n member)]
  have others (kind : Storage) (other : Storage.signedWord ≠ kind) :
      (numbers.map fun n => (Storage.signedWord, Scalar.int n)).any (fun number =>
        number.1 == kind) = false := by
    simp [other]
  have filled : (numbers.map fun n => (Storage.signedWord, Scalar.int n)).isEmpty = false := by
    simp [nonempty]
  rw [stored]
  unfold ofNumbers
  simp only [others .unbounded nofun, others .complex nofun, others .double nofun,
    others .unsignedWord nofun, filled, Bool.and_false, Bool.or_false, Bool.false_eq_true, if_false,
    List.map_map, Function.comp_def, Bool.not_false]
  refine congrArg (fun found => Except.ok (Sample.words true found)) ?_
  exact List.filterMap_map.trans List.filterMap_some

theorem ofValues_words (nonempty : numbers ≠ []) :
    ofValues (numbers.map .int) = .ok (.words true numbers) := by
  unfold ofValues
  rw [entriesOfAll_ints]
  have numbered : numbers.mapM (fun n =>
      (.ok (storage (.int n), .int n) : Except Fault (Storage × Scalar))) =
      .ok (numbers.map fun n => (storage (.int n), .int n)) := List.mapM_pure
  simp only [bind, Except.bind, List.length_singleton, List.mapM_map, Function.comp_def,
    Value.scalar?, numbered]
  exact ofNumbers_words words nonempty

/-- The sum of words wraps around. -/
theorem statistic_sum_words (nonempty : numbers ≠ []) :
    RealOperation.statistic sum (numbers.map .int) =
      .ok (.float (.ofInt (numbers.sum.bmod 0x10000000000000000))) := by
  unfold RealOperation.statistic
  rw [ofValues_words words nonempty, List.sum_eq_foldl]
  rfl

end Words

end Sample

/-- A number that is nearest to an integer and to what it wraps around to shows that it does not
wrap around: no number is nearest to a word and to an integer so far from zero. -/
theorem Binary64.IsNearest.bmod_eq {x : Binary64} {n : Int} (near : x.IsNearest n)
    (wrapped : x.IsNearest (n.bmod 0x10000000000000000 : Int)) :
    n.bmod 0x10000000000000000 = n := by
  cases x with
  | nan => exact absurd near id
  | signed negative magnitude =>
      obtain ⟨near, sign⟩ := near
      obtain ⟨wrapped, otherSign⟩ := wrapped
      have signs : n < 0 ↔ n.bmod 0x10000000000000000 < 0 := by
        have same := decide_eq_decide.mp (sign.symm.trans otherSign)
        rwa [Int.cast_lt_zero, Int.cast_lt_zero] at same
      by_contra wraps
      obtain ⟨least, greatest⟩ := isWord_bmod n
      have small : |n.bmod 0x10000000000000000| ≤ 2 ^ 63 := abs_le.mpr ⟨by omega, by omega⟩
      have large : 2 ^ 64 ≤ |n| := two_pow_le_abs_of_bmod_ne signs wraps
      have one : 1 ≤ 2 ^ 53 := Nat.one_le_two_pow
      obtain ⟨low, -, lowValue⟩ :=
        Magnitude.exists_isInteger_shifted one (show 63 ≤ 900 by decide)
      obtain ⟨high, -, highValue⟩ :=
        Magnitude.exists_isInteger_shifted one (show 64 ≤ 900 by decide)
      have below : magnitude.value ≤ low.value := by
        refine wrapped.value_le ?_
        rw [lowValue]
        exact_mod_cast small
      have above : high.value ≤ magnitude.value := by
        refine near.le_value ?_
        rw [highValue]
        exact_mod_cast large
      have order := above.trans below
      rw [lowValue, highValue] at order
      norm_num at order

namespace Evaluator

section Sum

variable {operator : Token} (named : operator.lexeme = "sum") {first : Tree}
  {steps : List (Token × Tree)} (commas : ∀ step ∈ steps, step.1.lexeme = ",")
  {numbers : List Int} (words : ∀ n ∈ numbers, IsWord n)
  (computed : List.Forall₂ (fun tree n => real.evaluate tree = .ok (.int n))
    (first :: steps.map Prod.snd) numbers)
include named commas words computed

theorem evaluate_sum_eq :
    real.evaluate (.unary operator
        (steps.foldl (fun tree step => .binary step.1 tree step.2) first)) =
      .ok (.float (.ofInt (numbers.sum.bmod 0x10000000000000000))) := by
  have nonempty : numbers ≠ [] := by
    rintro rfl
    cases computed
  have single : ∀ value ∈ numbers.map Value.int, ¬ ValueLike.IsArguments value := by
    intro value member
    obtain ⟨n, -, rfl⟩ := List.mem_map.mp member
    exact Value.not_isArguments rfl
  have known : real.operation? operator.lexeme = some (RealOperation.statistic Sample.sum) := by
    rw [named]
    rfl
  have different : operator.lexeme ≠ "," := by
    rw [named]
    decide
  have values : List.Forall₂ (fun tree value => real.evaluate tree = .ok value)
      (first :: steps.map Prod.snd) (numbers.map .int) :=
    List.forall₂_map_right_iff.mpr computed
  rw [evaluate_chain rfl known different commas single values,
    Sample.statistic_sum_words words nonempty]
  rfl

end Sum

end Evaluator

end Calculator
