import Mathlib

/-!
# Results of several stages

Where one stage follows another, a result tells that both succeeded
(`exists_of_bind`), and a failure which of them failed
(`error_or_exists_of_bind`).
-/

namespace Calculator

universe u v w

variable {ε ε' : Type u} {α : Type v} {β : Type w}

theorem exists_of_bind {first : Except ε α} {next : α → Except ε β} {result : β}
    (done : first.bind next = .ok result) :
    ∃ value, first = .ok value ∧ next value = .ok result := by
  cases first with
  | error problem => cases done
  | ok value => exact ⟨value, rfl, done⟩

theorem exists_of_map {first : Except ε α} {make : α → β} {result : β}
    (done : first.map make = .ok result) : ∃ value, first = .ok value ∧ make value = result := by
  cases first with
  | error problem => cases done
  | ok value => exact ⟨value, rfl, Except.ok.inj done⟩

theorem error_or_exists_of_bind {first : Except ε α} {next : α → Except ε β} {problem : ε}
    (failed : first.bind next = .error problem) :
    first = .error problem ∨ ∃ value, first = .ok value ∧ next value = .error problem := by
  cases first with
  | error other => exact .inl (congrArg Except.error (Except.error.inj failed))
  | ok value => exact .inr ⟨value, rfl, failed⟩

theorem error_of_map {first : Except ε α} {make : α → β} {problem : ε}
    (failed : first.map make = .error problem) : first = .error problem := by
  cases first with
  | error other => exact congrArg Except.error (Except.error.inj failed)
  | ok value => cases failed

theorem exists_of_mapError {first : Except ε α} {report : ε → ε'} {problem : ε'}
    (failed : first.mapError report = .error problem) :
    ∃ fault, first = .error fault ∧ report fault = problem := by
  cases first with
  | error fault => exact ⟨fault, rfl, Except.error.inj failed⟩
  | ok value => cases failed

end Calculator
