import Calculator.Problem

/-!
# Faults

Why an operation has no result for its operands. An operation may refuse the
count or the kind of its operands when it is called, or break down on their kind
while it runs; only the former is a problem of the expression. Evaluators may have
faults of a type of their own, of which no more is known than their causes
(`FaultLike`); `Fault` is the type of the operations that are defined here.
-/

namespace Calculator

/-- What is known about a fault: a division by zero, a value outside the domain or
a range that is exceeded, a call that was refused, or anything else. -/
inductive Cause
  | divisionByZero
  | domain (detail : Option DomainDetail)
  | refused (detail : Option DomainDetail)
  | other
deriving DecidableEq

/-- Faults of any type: each has a cause, and there is one by which a call with a
wrong count of operands is refused. -/
class FaultLike (ε : Type) where
  cause : ε → Cause
  refusal : ε
  cause_refusal : cause refusal = .refused none

/-- How an operation breaks down while it runs: on an operand of a wrong kind, on
one that lacks a part, or because its result would be too long to be stored. -/
inductive Breakdown
  | operandKind
  | missingPart
  | memory
deriving DecidableEq

/-- Why an operation has no result. -/
inductive Fault
  | divisionByZero
  | domain (detail : Option DomainDetail)
  | refused
  | broken (breakdown : Breakdown)
deriving DecidableEq

namespace Fault

/-- A value outside the domain about which nothing else is told. -/
def undetailed : Fault := .domain none

/-- A value outside the domain with a detail. -/
def detailed (detail : DomainDetail) : Fault := .domain (some detail)

/-- What a refusal becomes when it happens while an operation runs. -/
def inside : Fault → Fault
  | refused => .broken .operandKind
  | fault => fault

def cause : Fault → Cause
  | divisionByZero => .divisionByZero
  | domain detail => .domain detail
  | refused => .refused none
  | broken _ => .other

instance : FaultLike Fault := ⟨cause, refused, rfl⟩

end Fault

/-- A computation inside an operation: what it refuses breaks the operation. -/
def inside {α : Type} (result : Except Fault α) : Except Fault α := result.mapError Fault.inside

end Calculator
