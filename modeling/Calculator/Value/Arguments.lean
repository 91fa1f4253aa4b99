import Calculator.Value.Basic

/-!
# Lists of arguments

The operands of a chain of commas are collected in a list of arguments, which a
function takes apart again. An evaluator may have values of a type of its own, as
long as there are such lists among them (`ValueLike`).
-/

namespace Calculator

/-- Values of any type. There is one for what a token stands for, even if that is
nothing, and lists of arguments can be told from all other values. -/
class ValueLike (V : Type) where
  ofLiteral : Option Literal → V
  arguments : List V → V
  arguments? : V → Option (List V)
  arguments?_arguments (items : List V) : arguments? (arguments items) = some items

namespace Value

def arguments? : Value → Option (List Value)
  | arguments items => some items
  | _ => none

instance : ValueLike Value where
  ofLiteral literal := literal.elim nothing ofLiteral
  arguments := arguments
  arguments? := arguments?
  arguments?_arguments _ := rfl

end Value

namespace ValueLike

variable {V : Type} [ValueLike V]

/-- Whether a value is a list of arguments. -/
def IsArguments (value : V) : Prop := ∃ items, arguments? value = some items

instance (value : V) : Decidable (IsArguments value) :=
  decidable_of_iff ((arguments? value).isSome = true) Option.isSome_iff_exists

/-- Collects the operands of a comma: a chain of commas makes one list. -/
def comma (left right : V) : V :=
  match arguments? left with
  | some items => arguments (items ++ [right])
  | none => arguments [left, right]

/-- The arguments of a function: a list of arguments that stands alone is taken
apart. -/
def spread : List V → List V
  | [value] => (arguments? value).getD [value]
  | values => values

end ValueLike

end Calculator
