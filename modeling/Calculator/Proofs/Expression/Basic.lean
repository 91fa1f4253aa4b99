import Calculator.Proofs.Precedence
import Calculator.Proofs.Token.Role
import Calculator.Tree.Basic

/-!
# Written expressions

A written expression is an expression with its brackets: the shape that a reader
sees in the tokens. It has a list of tokens (`Expression.tokens`) and an operator
tree, in which the brackets are gone (`Expression.tree`). An expression conforms to
the precedences if every operand that is not bracketed is held together by
operators that bind tighter than the one it belongs to
(`Expression.Conforming`).
-/

namespace Calculator

/-- An expression as it is written. -/
inductive Expression
  | leaf (token : Token)
  | bracketed (opener : Token) (inner : Expression) (closer : Token)
  | prefixed (operator : Token) (operand : Expression)
  | infixed (left : Expression) (operator : Token) (right : Expression)
  | suffixed (operand : Expression) (operator : Token)
deriving DecidableEq

namespace Expression

def tokens : Expression → List Token
  | leaf token => [token]
  | bracketed opener inner closer => opener :: (inner.tokens ++ [closer])
  | prefixed operator operand => operator :: operand.tokens
  | infixed left operator right => left.tokens ++ operator :: right.tokens
  | suffixed operand operator => operand.tokens ++ [operator]

/-- The operator tree of an expression: brackets are dropped, and every operator
knows its position. -/
def tree : Expression → Tree
  | leaf token => .leaf token
  | bracketed _ inner _ => inner.tree
  | prefixed operator operand => .unary operator.leading operand.tree
  | infixed left operator right => .binary operator.infixed left.tree right.tree
  | suffixed operand operator => .unary operator.suffixed operand.tree

/-- The operators that an operator before the expression competes with: those
whose leftmost operand is open to the left. -/
def leftEdge : Expression → List Token
  | leaf _ | bracketed _ _ _ | prefixed _ _ => []
  | infixed left operator _ => operator.infixed :: left.leftEdge
  | suffixed operand operator => operator.suffixed :: operand.leftEdge

/-- The operators that an operator behind the expression competes with: those
whose rightmost operand is open to the right. -/
def rightEdge : Expression → List Token
  | leaf _ | bracketed _ _ _ | suffixed _ _ => []
  | prefixed operator operand => operator.leading :: operand.rightEdge
  | infixed _ operator right => operator.infixed :: right.rightEdge

/-- Every operator at the edge binds tighter than the operator before it. -/
def YieldsTo (operator : Token) (edge : List Token) : Prop :=
  ∀ token ∈ edge, Operator.bindsTighter (some token) (some operator) = true

/-- The operator behind binds tighter than no operator at the edge. -/
def HoldsOff (operator : Token) (edge : List Token) : Prop :=
  ∀ token ∈ edge, Operator.bindsTighter (some operator) (some token) = false

/-- The brackets of an expression stand where precedence asks for them. -/
def Conforming : Expression → Prop
  | leaf _ => True
  | bracketed _ inner _ => inner.Conforming
  | prefixed operator operand =>
    YieldsTo operator.leading operand.leftEdge ∧ operand.Conforming
  | infixed left operator right =>
    HoldsOff operator.infixed left.rightEdge ∧ YieldsTo operator.infixed right.leftEdge ∧
      left.Conforming ∧ right.Conforming
  | suffixed operand operator =>
    HoldsOff operator.suffixed operand.rightEdge ∧ operand.Conforming

/-- Every token of an expression, brackets apart, plays the part that its place
asks for. -/
def Fitted : Expression → Prop
  | leaf token => token.kind = .number
  | bracketed _ inner _ => inner.Fitted
  | prefixed operator operand => (operator.IsFunction ∨ operator.IsSign) ∧ operand.Fitted
  | infixed left operator right => operator.IsInfix ∧ left.Fitted ∧ right.Fitted
  | suffixed operand operator => operator.IsSuffix ∧ operand.Fitted

/-- Brackets open and close, and match in kind if the settings require it. -/
def Bracketed (config : Config) : Expression → Prop
  | leaf _ => True
  | bracketed opener inner closer =>
    opener.IsOpener ∧ Token.Closes config opener closer ∧ inner.Bracketed config
  | prefixed _ operand => operand.Bracketed config
  | infixed left _ right => left.Bracketed config ∧ right.Bracketed config
  | suffixed operand _ => operand.Bracketed config

/-- All tokens of an expression are in their places. -/
structure WellFormed (config : Config) (e : Expression) : Prop where
  fitted : e.Fitted
  bracketed : e.Bracketed config

/-- How deep an expression nests. Operands on the left of an operator do not
count, and a suffix counts twice. -/
def depth : Expression → Nat
  | leaf _ => 0
  | bracketed _ inner _ => inner.depth + 1
  | prefixed _ operand => operand.depth + 1
  | infixed left _ right => max left.depth (right.depth + 1)
  | suffixed operand _ => operand.depth + 2

instance (operator : Token) (edge : List Token) : Decidable (YieldsTo operator edge) :=
  inferInstanceAs (Decidable (∀ token ∈ edge, _))

instance (operator : Token) (edge : List Token) : Decidable (HoldsOff operator edge) :=
  inferInstanceAs (Decidable (∀ token ∈ edge, _))

instance decidableConforming : (e : Expression) → Decidable e.Conforming
  | leaf _ => .isTrue trivial
  | bracketed _ inner _ => decidableConforming inner
  | prefixed _ operand => @instDecidableAnd _ _ inferInstance (decidableConforming operand)
  | infixed left _ right =>
    @instDecidableAnd _ _ inferInstance (@instDecidableAnd _ _ inferInstance
      (@instDecidableAnd _ _ (decidableConforming left) (decidableConforming right)))
  | suffixed operand _ => @instDecidableAnd _ _ inferInstance (decidableConforming operand)

instance decidableFitted : (e : Expression) → Decidable e.Fitted
  | leaf token => inferInstanceAs (Decidable (token.kind = .number))
  | bracketed _ inner _ => decidableFitted inner
  | prefixed _ operand => @instDecidableAnd _ _ inferInstance (decidableFitted operand)
  | infixed left _ right =>
    @instDecidableAnd _ _ inferInstance
      (@instDecidableAnd _ _ (decidableFitted left) (decidableFitted right))
  | suffixed operand _ => @instDecidableAnd _ _ inferInstance (decidableFitted operand)

instance decidableBracketed (config : Config) : (e : Expression) → Decidable (e.Bracketed config)
  | leaf _ => .isTrue trivial
  | bracketed _ inner _ =>
    @instDecidableAnd _ _ inferInstance
      (@instDecidableAnd _ _ inferInstance (decidableBracketed config inner))
  | prefixed _ operand => decidableBracketed config operand
  | infixed left _ right =>
    @instDecidableAnd _ _ (decidableBracketed config left) (decidableBracketed config right)
  | suffixed operand _ => decidableBracketed config operand

instance (config : Config) (e : Expression) : Decidable (e.WellFormed config) :=
  decidable_of_iff (e.Fitted ∧ e.Bracketed config)
    ⟨fun both => ⟨both.1, both.2⟩, fun formed => ⟨formed.fitted, formed.bracketed⟩⟩

end Expression

end Calculator
