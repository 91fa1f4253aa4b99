import Calculator.Proofs.Precedence
import Calculator.Proofs.Result
import Calculator.Tree.Build

/-!
# Reading items from left to right

`Tree.read` is `Tree.extend` without the bound on what is left to read. Its
equations, one for each kind of item, are all that is used of it; the bound
becomes a lemma (`Tree.weights_read_le`), and induction on the items goes by their
weight.
-/

namespace Calculator

/-- What is read behind an operator may be any lighter items. So a property of all items is
shown by what it needs of the items behind a token, and in and behind a group. -/
theorem Item.weights_induction {P : List Item → Prop} (nil : P [])
    (single : ∀ token items, (∀ behind, weights behind ≤ weights items → P behind) →
      P (.single token :: items))
    (group : ∀ bracket position inner items, P inner → P items →
      P (.group bracket position inner :: items)) (items : List Item) : P items := by
  induction count : weights items using Nat.strongRecOn generalizing items with
  | _ count ih =>
    subst count
    rcases items with _ | ⟨token | ⟨bracket, position, inner⟩, items⟩
    case nil => exact nil
    case cons.single =>
        refine single token items fun behind lighter => ih (weights behind) ?_ behind rfl
        simp only [weights, weight]
        omega
    case cons.group =>
        refine group bracket position inner items (ih (weights inner) ?_ inner rfl)
          (ih (weights items) ?_ items rfl)
        · simp only [weights, weight]
          omega
        · simp only [weights, weight]
          omega

namespace Tree

open Item

/-- Reads on after the given operand. The answer holds the items from the first
operator on that does not bind tighter than the active one. -/
def read (limit : Nat) (active : Option Token) (depth : Nat) (left : Option Tree)
    (items : List Item) : Except ParseProblem (Option Tree × List Item) :=
  (extend limit active depth left items).map fun answer => (answer.1, answer.2.1)

/-- Reads one operand, if the limit of nesting allows it. -/
def readOperand (limit : Nat) (active : Option Token) (depth : Nat) (items : List Item) :
    Except ParseProblem (Option Tree × List Item) :=
  if limit < depth then .error (.tooDeep active limit) else read limit active depth none items

theorem operand?_eq_readOperand (limit : Nat) (active : Option Token) (depth : Nat)
    (items : List Item) :
    (operand? limit active depth items).map (fun answer => (answer.1, answer.2.1)) =
      readOperand limit active depth items := by
  unfold operand? readOperand
  split
  · rfl
  · rfl

theorem ofGroup_eq_readOperand (config : Config) (group : Group) :
    ofGroup config group = (readOperand config.maxDepth none 0 group.items).map Prod.fst := by
  unfold ofGroup
  rw [← operand?_eq_readOperand]
  cases operand? config.maxDepth none 0 group.items <;> rfl

variable {limit : Nat} {active : Option Token} {depth : Nat}

@[simp] theorem read_nil (left : Option Tree) :
    read limit active depth left [] = .ok (left, []) := by
  unfold read extend
  rfl

/-- A group is read on its own and has to hold an operand. -/
theorem read_group (left : Option Tree) (bracket : Option String) (position : Int)
    (inner items : List Item) :
    read limit active depth left (.group bracket position inner :: items) =
      (readOperand limit none (depth + 1) inner).bind fun content =>
        match content.1, left with
        | none, _ => .error (emptyGroup bracket position)
        | some _, some _ => .error (adjacent (.group bracket position inner))
        | some tree, none => read limit active depth (some tree) items := by
  rw [← operand?_eq_readOperand]
  unfold read
  rw [extend]
  rcases operand? limit none (depth + 1) inner with problem | ⟨content, rest⟩
  · rfl
  · rcases content with _ | tree
    · rfl
    · rcases left with _ | left
      · simp only [bind, Except.bind, Except.map]
        rcases extend limit active depth (some tree) items with problem | ⟨result, behind⟩ <;> rfl
      · rfl

theorem read_number {token : Token} (number : token.kind = .number) (items : List Item) :
    read limit active depth none (.single token :: items) =
      read limit active depth (some (.leaf token)) items := by
  unfold read
  rw [extend]
  simp only [number, ↓reduceIte, bind, Except.bind]
  rcases extend limit active depth (some (.leaf token)) items with problem | ⟨result, behind⟩ <;>
    rfl

/-- An operator with nothing on its left takes an operand on its right. -/
theorem read_leading {token : Token} (operator : token.kind ≠ .number) (items : List Item) :
    read limit active depth none (.single token :: items) =
      (leadingOperator token).bind fun operator =>
        (readOperand limit (some operator) (depth + 1) items).bind fun answer =>
          match answer.1 with
          | none => .error (.missingOperand operator .right)
          | some operand => read limit active depth (some (.unary operator operand)) answer.2 := by
  unfold read
  rw [extend]
  simp only [operator, ↓reduceIte, bind]
  rcases leadingOperator token with problem | sign
  · rfl
  · simp only [Except.bind]
    rw [← operand?_eq_readOperand]
    rcases operand? limit (some sign) (depth + 1) items with problem | ⟨operand, behind, shorter⟩
    · rfl
    · rcases operand with _ | operand
      · rfl
      · simp only [Except.map]
        rcases extend limit active depth (some (.unary sign operand)) behind with
          problem | ⟨result, rest⟩ <;> rfl

theorem read_adjacent {token : Token} (number : token.kind = .number) (left : Tree)
    (items : List Item) :
    read limit active depth (some left) (.single token :: items) =
      .error (.misplaced token .noOperatorBetween) := by
  unfold read
  rw [extend]
  simp only [number, ↓reduceIte]
  rfl

theorem read_function {token : Token} (operator : token.kind ≠ .number)
    (function : token.fixity.isSome = true) (left : Tree) (items : List Item) :
    read limit active depth (some left) (.single token :: items) =
      .error (.misplaced token .functionAfterOperand) := by
  unfold read
  rw [extend]
  simp only [operator, function, ↓reduceIte]
  rfl

/-- An operator that binds tighter than the active one takes the operand on its
left and one on its right. -/
theorem read_between {token : Token} (operator : token.kind ≠ .number)
    (plain : token.fixity = none) (tighter : Operator.bindsTighter (some token) active = true)
    (left : Tree) (items : List Item) :
    read limit active depth (some left) (.single token :: items) =
      (readOperand limit (some token.infixed) (depth + 1) items).bind
        fun answer =>
          match answer.1 with
          | none => .error (.missingOperand token.infixed .right)
          | some right =>
            read limit active depth
              (some (.binary token.infixed left right)) answer.2 := by
  unfold read Token.infixed
  rw [extend]
  simp only [operator, plain, tighter, Option.isSome_none, Bool.false_eq_true, ↓reduceIte, bind]
  rw [← operand?_eq_readOperand]
  rcases operand? limit (some { token with fixity := some .infixed }) (depth + 1) items with
    problem | ⟨right, behind, shorter⟩
  · rfl
  · rcases right with _ | right
    · rfl
    · simp only [Except.map, Except.bind]
      rcases extend limit active depth
          (some (.binary { token with fixity := some .infixed } left right)) behind with
        problem | ⟨result, rest⟩ <;> rfl

/-- Any other operator is left to the operator that is active further out. -/
theorem read_return {token : Token} (operator : token.kind ≠ .number)
    (plain : token.fixity = none) (looser : Operator.bindsTighter (some token) active = false)
    (left : Tree) (items : List Item) :
    read limit active depth (some left) (.single token :: items) =
      .ok (some left, .single token :: items) := by
  unfold read
  rw [extend]
  simp only [operator, plain, looser, Option.isSome_none, Bool.false_eq_true, ↓reduceIte]
  rfl

theorem read_of_readOperand {items : List Item} {answer : Option Tree × List Item}
    (found : readOperand limit active depth items = .ok answer) :
    read limit active depth none items = .ok answer := by
  unfold readOperand at found
  split at found
  · cases found
  · exact found

/-- What is left to read is no more than there was. -/
theorem weights_read_le {left result : Option Tree} {items rest : List Item}
    (answer : read limit active depth left items = .ok (result, rest)) :
    weights rest ≤ weights items := by
  obtain ⟨⟨tree, behind, bound⟩, -, same⟩ := exists_of_map answer
  cases same
  exact bound

theorem weights_readOperand_le {result : Option Tree} {items rest : List Item}
    (answer : readOperand limit active depth items = .ok (result, rest)) :
    weights rest ≤ weights items :=
  weights_read_le (read_of_readOperand answer)

end Tree

end Calculator
