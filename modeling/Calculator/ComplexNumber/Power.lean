import Calculator.ComplexNumber.Basic
import Calculator.Fault

/-!
# Powers of complex numbers

Small integer powers are repeated products, others go through polar form. A
finite number may have an absolute value or a power that is too large.
-/

namespace Calculator

namespace ComplexNumber

/-- The absolute value, unless that of a finite number overflows. -/
def abs (z : ComplexNumber) : Except Fault Binary64 :=
  if z.isFinite && z.length.isInfinite then .error .undetailed else .ok z.length

/-- A natural power by repeated squaring. The count of bits bounds the number of
steps. -/
def natPower (z : ComplexNumber) (n : Nat) : ComplexNumber :=
  ((List.range (n.log2 + 1)).foldl (fun (state : ComplexNumber × ComplexNumber) bit =>
    let (product, square) := state
    (if n.testBit bit then product * square else product, square * square)) (⟨1, 0⟩, z)).1

/-- A power through polar form, for a base other than zero. -/
def polarPower (z w : ComplexNumber) : Except Fault ComplexNumber :=
  let length := z.length
  let scale := realPower length w.re
  let turn := z.phase * w.re
  let (scale, turn) :=
    if w.im.isZero then (scale, turn)
    else (scale / (z.phase * w.im).exp, turn + w.im * length.log)
  if turn.isInfinite then .error .divisionByZero
  else .ok ⟨scale * turn.cos, scale * turn.sin⟩
where
  realPower (x y : Binary64) : Binary64 :=
    if x.isFinite && y.isFinite then Binary64.finitePower x y
    else Binary64.viaFloat₂ Float.pow x y

/-- A power. Zero has no powers but those with positive real exponents and the
one with exponent zero, and an infinite power is none. -/
def power (z w : ComplexNumber) : Except Fault ComplexNumber := do
  let result ←
    if w.im.isZero && w.re.isIntegral && w.re.abs.le 100 then
      if 0 < w.re.truncate then .ok (natPower z w.re.truncate.toNat)
      else
        match div? (ofReal 1) (natPower z (-w.re.truncate).toNat) with
        | some result => .ok result
        | none => .error .divisionByZero
    else if z.re.isZero && z.im.isZero then
      if !w.im.isZero || w.re.lt 0 then .error .divisionByZero else .ok (ofReal 0)
    else polarPower z w
  if result.re.isInfinite || result.im.isInfinite then .error .undetailed else .ok result

end ComplexNumber

end Calculator
