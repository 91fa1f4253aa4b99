import Calculator.Proofs.Group.Spacing
import Calculator.Proofs.Tree.Reading

/-!
# What building can come to

Items in which operands are apart are read as a tree, unless there are none or an
operand is missing or too deep (`Tree.ofGroup_of_spaced`). Nothing is ever
misplaced among them: whatever is left after an operand starts with an operator.
-/

namespace Calculator

/-- A problem of an operand that is missing or too deep. -/
def ParseProblem.Lacks (problem : ParseProblem) : Prop :=
  problem.report.kind = .missingOperand ∨ problem.report.kind = .tooDeeplyNested

namespace Tree

open Item

variable {limit depth : Nat} {active : Option Token}

/-- What reading on from an operand may come to: an operand and the items that
follow it, or a lack of operands. -/
def Outcome (left : Option Tree) (items : List Item) :
    Except ParseProblem (Option Tree × List Item) → Prop
  | .ok (result, rest) =>
    rest <:+ items ∧ Detached rest ∧ (left.isSome = true ∨ items ≠ [] → result.isSome = true)
  | .error problem => problem.Lacks

/-- Reading the items comes to one of these, behind an operand only if none starts
there. -/
def Proper (limit : Nat) (items : List Item) : Prop :=
  ∀ depth active left, SpacedIn items → (left.isSome = true → Detached items) →
    Outcome left items (read limit active depth left items)

theorem lacks_tooDeep (token : Option Token) (limit : Nat) :
    (ParseProblem.tooDeep token limit).Lacks := .inr rfl

theorem lacks_missingOperand (operator : Token) (side : Side) :
    (ParseProblem.missingOperand operator side).Lacks := .inl rfl

theorem lacks_emptyGroup (bracket : Option String) (position : Int) :
    (emptyGroup bracket position).Lacks := .inl rfl

/-- More items in front do not matter once an operand has been read. -/
theorem Outcome.of_suffix {left : Tree} {first : Option Tree} {items front : List Item}
    {answer : Except ParseProblem (Option Tree × List Item)} (later : items <:+ front)
    (outcome : Outcome (some left) items answer) : Outcome first front answer := by
  rcases answer with problem | ⟨tree, rest⟩
  · exact outcome
  · obtain ⟨suffix, detached, found⟩ := outcome
    exact ⟨suffix.trans later, detached, fun _ => found (.inl rfl)⟩

theorem SpacedIn.of_suffix {items rest : List Item} (spaced : SpacedIn items)
    (later : rest <:+ items) : SpacedIn rest := by
  obtain ⟨front, rfl⟩ := later
  exact (holdsIn_append.mp spaced).2.1

theorem Proper.readOperand {items : List Item} (proper : Proper limit items)
    (spaced : SpacedIn items) (active : Option Token) (depth : Nat) :
    Outcome none items (readOperand limit active depth items) := by
  rw [Tree.readOperand]
  split
  · exact lacks_tooDeep active limit
  · exact proper depth active none spaced (absurd · Bool.false_ne_true)

theorem proper_nil : Proper limit [] := by
  intro depth active left _ _
  rw [read_nil]
  refine ⟨List.suffix_refl [], detached_nil, ?_⟩
  rintro (some | none)
  · exact some
  · exact absurd rfl none

/-- An operator takes its operand from the items and reads on with what it
makes of it. -/
theorem outcome_operator {operator : Token} {items : List Item} (left : Option Tree)
    (token : Token) (make : Tree → Tree) (operand : Proper limit items) (spaced : SpacedIn items)
    (after : ∀ behind, weights behind ≤ weights items → Proper limit behind) :
    Outcome left (.single token :: items)
      ((readOperand limit (some operator) (depth + 1) items).bind fun answer =>
        match answer.1 with
        | none => .error (.missingOperand operator .right)
        | some operand => read limit active depth (some (make operand)) answer.2) := by
  have outcome := operand.readOperand spaced (some operator) (depth + 1)
  rcases found : Tree.readOperand limit (some operator) (depth + 1) items with
    problem | ⟨result, behind⟩
  · rw [found] at outcome
    exact outcome
  · rw [found] at outcome
    obtain ⟨later, detached, -⟩ := outcome
    rcases result with _ | result
    · exact lacks_missingOperand operator .right
    · have onward := after behind (weights_readOperand_le found) depth active (some (make result))
        (SpacedIn.of_suffix spaced later) (fun _ => detached)
      exact onward.of_suffix (later.trans (List.suffix_cons _ _))

theorem proper_single {token : Token} {items : List Item}
    (after : ∀ behind, weights behind ≤ weights items → Proper limit behind) :
    Proper limit (.single token :: items) := by
  intro depth active left spaced detached
  obtain ⟨-, seam, later⟩ := holdsIn_cons.mp spaced
  have operand := after items (Nat.le_refl _)
  rcases left with _ | left
  · by_cases number : token.kind = .number
    · rw [read_number number]
      have free : Detached items := fun next head =>
        seam next head (by simp [endsOperand, number])
      exact (operand depth active _ later fun _ => free).of_suffix (List.suffix_cons _ _)
    · rw [read_leading number]
      rcases leads : leadingOperator token with problem | operator
      · have lacks : problem.Lacks := by
          unfold leadingOperator at leads
          split at leads
          · cases leads
          · split at leads
            · cases leads
            · cases leads
              exact lacks_missingOperand token .left
        exact lacks
      · exact outcome_operator none token (.unary operator) operand later after
  · have starts := detached rfl _ rfl
    simp only [startsOperand, Bool.or_eq_false_iff, beq_eq_false_iff_ne] at starts
    have plain : token.fixity = none := by simpa using starts.2
    cases tighter : Operator.bindsTighter (some token) active with
    | true =>
        rw [read_between starts.1 plain tighter]
        exact outcome_operator (some left) token (.binary token.infixed left) operand later after
    | false =>
        rw [read_return starts.1 plain tighter]
        exact ⟨List.suffix_refl _, detached rfl, fun _ => rfl⟩

theorem proper_group {bracket : Option String} {position : Int} {inner items : List Item}
    (content : Proper limit inner) (after : Proper limit items) :
    Proper limit (.group bracket position inner :: items) := by
  intro depth active left spaced detached
  obtain ⟨inside, seam, later⟩ := holdsIn_cons.mp spaced
  rcases left with _ | left
  · have outcome := content.readOperand (holds_group.mp inside).2 none (depth + 1)
    rw [read_group]
    rcases found : Tree.readOperand limit none (depth + 1) inner with problem | ⟨result, behind⟩
    · rw [found] at outcome
      exact outcome
    · rcases result with _ | result
      · exact lacks_emptyGroup bracket position
      · have free : Detached items := fun next head => seam next head rfl
        exact (after depth active _ later fun _ => free).of_suffix (List.suffix_cons _ _)
  · have starts := detached rfl _ rfl
    cases starts

theorem proper (items : List Item) : Proper limit items :=
  weights_induction proper_nil (fun _ _ => proper_single) (fun _ _ _ _ => proper_group) items

/-- Building finds a tree or a lack, and nothing only in no items. -/
theorem ofGroup_of_spaced {config : Config} {group : Group} (spaced : SpacedIn group.items) :
    (∀ problem, ofGroup config group = .error problem → problem.Lacks) ∧
      (ofGroup config group = .ok none → group.items = []) := by
  have outcome := (@proper config.maxDepth group.items).readOperand spaced none 0
  rw [ofGroup_eq_readOperand]
  rcases found : Tree.readOperand config.maxDepth none 0 group.items with problem | ⟨result, rest⟩
  · rw [found] at outcome
    constructor
    · rintro _ ⟨⟩
      exact outcome
    · intro impossible
      cases impossible
  · rw [found] at outcome
    constructor
    · intro problem impossible
      cases impossible
    · intro none
      obtain rfl : result = Option.none := Except.ok.inj none
      by_cases empty : group.items = []
      · exact empty
      · cases outcome.2.2 (.inr empty)

end Tree

end Calculator
