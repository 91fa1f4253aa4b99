import Calculator.Group.Basic
import Calculator.Operator
import Calculator.Problem
import Calculator.Tree.Basic

/-!
# Building trees

`Tree.ofGroup` reads the items of a group from left to right and builds an
operator tree. It carries the operator whose right operand is being built, and
gives control back at an operator that does not bind tighter. All operators stand
before or between their operands here; suffix operators have been moved before.
-/

namespace Calculator

namespace Item

mutual

def weight : Item → Nat
  | .single _ => 1
  | .group _ _ items => weights items + 1

def weights : List Item → Nat
  | [] => 0
  | item :: rest => item.weight + weights rest

end

mutual

/-- The token that stands for an item in a report: itself, its bracket, or the
first such token inside. -/
def anchor? : Item → Option Token
  | .single token => some token
  | .group (some bracket) position _ =>
    some { kind := .bracket, lexeme := bracket, position := position }
  | .group none _ items => anchorIn? items

/-- The first token that stands for one of several items. -/
def anchorIn? : List Item → Option Token
  | [] => none
  | item :: rest => item.anchor?.or (anchorIn? rest)

end

/-- The items that are left to read, no more than there were. -/
abbrev Rest (items : List Item) : Type :=
  { rest : List Item // Item.weights rest ≤ Item.weights items }

end Item

namespace Tree

/-- The operator of a term that starts with a token other than a value. A sign
turns into the negation; other operators need an operand before them. -/
def leadingOperator (token : Token) : Except ParseProblem Token :=
  match token.fixity with
  | some _ => .ok token
  | none =>
    if Operator.ofText token.lexeme = .minus then
      .ok { token with lexeme := "negate", fixity := some .prefixed }
    else .error (.missingOperand token .left)

def emptyGroup (bracket : Option String) (position : Int) : ParseProblem :=
  .emptyBrackets (if bracket.getD "" = "" then "(" else bracket.getD "") position

/-- The problem of an operand that follows another one. -/
def adjacent (item : Item) : ParseProblem :=
  match item.anchor? with
  | some token => .misplaced token .noOperatorBetween
  | none => emptyGroup none (-1)

open Item in
mutual

/-- One operand from the front of the items, up to an operator that does not bind
tighter than the active one, and the items from there on. There is none if the
items are used up. -/
def operand? (limit : Nat) (active : Option Token) (depth : Nat) (items : List Item) :
    Except ParseProblem (Option Tree × Rest items) :=
  if limit < depth then .error (.tooDeep active limit)
  else extend limit active depth none items
termination_by 2 * weights items + 1
decreasing_by all_goals omega

/-- Reads on after the given operand. -/
def extend (limit : Nat) (active : Option Token) (depth : Nat) (left : Option Tree) :
    (items : List Item) → Except ParseProblem (Option Tree × Rest items)
  | [] => .ok (left, ⟨[], Nat.le_refl _⟩)
  | .group bracket position inner :: items => do
    let (content, _) ← operand? limit none (depth + 1) inner
    match content, left with
    | none, _ => .error (emptyGroup bracket position)
    | some _, some _ => .error (adjacent (.group bracket position inner))
    | some tree, none =>
      let (result, ⟨rest, lighter⟩) ← extend limit active depth (some tree) items
      .ok (result, ⟨rest, by simp only [weights]; omega⟩)
  | .single token :: items =>
    match left with
    | none =>
      if token.kind = .number then do
        let (result, ⟨rest, lighter⟩) ← extend limit active depth (some (.leaf token)) items
        .ok (result, ⟨rest, by simp only [weights]; omega⟩)
      else do
        let operator ← leadingOperator token
        let (operand, ⟨behind, shorter⟩) ← operand? limit (some operator) (depth + 1) items
        match operand with
        | none => .error (.missingOperand operator .right)
        | some operand =>
          let (result, ⟨rest, lighter⟩) ←
            extend limit active depth (some (.unary operator operand)) behind
          .ok (result, ⟨rest, by simp only [weights]; omega⟩)
    | some left =>
      if token.kind = .number then .error (.misplaced token .noOperatorBetween)
      else if token.fixity.isSome then .error (.misplaced token .functionAfterOperand)
      else if Operator.bindsTighter (some token) active then do
        let operator := { token with fixity := some .infixed }
        let (right, ⟨behind, shorter⟩) ← operand? limit (some operator) (depth + 1) items
        match right with
        | none => .error (.missingOperand operator .right)
        | some right =>
          let (result, ⟨rest, lighter⟩) ←
            extend limit active depth (some (.binary operator left right)) behind
          .ok (result, ⟨rest, by simp only [weights]; omega⟩)
      else .ok (some left, ⟨.single token :: items, Nat.le_refl _⟩)
termination_by items => 2 * weights items
decreasing_by all_goals simp only [weights, weight]; omega

end

/-- The tree of a group, or none if the group is empty. -/
def ofGroup (config : Config) (group : Group) : Except ParseProblem (Option Tree) :=
  (operand? config.maxDepth none 0 group.items).map Prod.fst

end Tree

end Calculator
