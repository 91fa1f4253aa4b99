import Calculator.Evaluator.Basic
import Calculator.Parse
import Calculator.Proofs.Group.Places
import Calculator.Proofs.Tree.Reading

/-!
# Trees without places

Trees are built from items, and read in postfix order, in the same way wherever the tokens
stand (`Tree.ofTokens_placeless`, `Tree.ofPostfix_placeless`). A tree has the same value
wherever it stands, or fails for the same reason (`Evaluator.evaluate_placeless`).
-/

namespace Calculator

namespace Item

mutual

theorem anchor?_placeless : ∀ item : Item, item.placeless.anchor? = item.anchor?.map Token.placeless
  | .single token => by rw [placeless_single, anchor?, anchor?, Option.map_some]
  | .group (some bracket) position items => by
      rw [placeless_group, anchor?, anchor?]
      rfl
  | .group none position items => by
      rw [placeless_group, anchor?, anchor?, anchorIn?_placeless items]

theorem anchorIn?_placeless :
    ∀ items : List Item,
      anchorIn? (items.map placeless) = (anchorIn? items).map Token.placeless
  | [] => by
      rw [List.map_nil, anchorIn?]
      rfl
  | item :: rest => by
      rw [List.map_cons, anchorIn?, anchorIn?, anchor?_placeless item, anchorIn?_placeless rest,
        Option.map_or]

end

end Item

namespace Tree

open Item Parsed

/-- A tree without places. -/
def placeless : Tree → Tree
  | leaf token => leaf token.placeless
  | unary operator operand => unary operator.placeless operand.placeless
  | binary operator left right => binary operator.placeless left.placeless right.placeless

theorem outline_placeless (tree : Tree) : tree.placeless.outline = tree.outline := by
  induction tree with
  | leaf token => rfl
  | unary operator operand ih => rw [placeless, outline, outline, ih]; rfl
  | binary operator left right leftIh rightIh =>
      rw [placeless, outline, outline, leftIh, rightIh]
      rfl

theorem bindsTighter_placeless (token : Token) (active : Option Token) :
    Operator.bindsTighter (some token.placeless) (active.map Token.placeless) =
      Operator.bindsTighter (some token) active := by
  cases active <;> rfl

theorem leadingOperator_placeless (token : Token) :
    leadingOperator token.placeless =
      Parsed.placeless Token.placeless (leadingOperator token) := by
  unfold leadingOperator
  rw [show token.placeless.fixity = token.fixity from rfl,
    show token.placeless.lexeme = token.lexeme from rfl]
  cases token.fixity with
  | some fixity => rfl
  | none =>
      simp only
      split <;> rfl

theorem adjacent_placeless (item : Item) : adjacent item.placeless = (adjacent item).placeless := by
  unfold adjacent
  rw [anchor?_placeless]
  cases item.anchor? <;> rfl

/-- What was read and what is left, without places. -/
def placelessAnswer (answer : Option Tree × List Item) : Option Tree × List Item :=
  (answer.1.map placeless, answer.2.map Item.placeless)

variable {limit : Nat}

/-- The items are read on in the same way wherever they stand. -/
def ReadsPlaceless (limit : Nat) (items : List Item) : Prop :=
  ∀ active depth left,
    read limit (active.map Token.placeless) depth (left.map placeless)
        (items.map Item.placeless) =
      Parsed.placeless placelessAnswer (read limit active depth left items)

theorem ReadsPlaceless.readOperand {items : List Item} (reads : ReadsPlaceless limit items)
    (active : Option Token) (depth : Nat) :
    readOperand limit (active.map Token.placeless) depth (items.map Item.placeless) =
      Parsed.placeless placelessAnswer (readOperand limit active depth items) :=
  placeless_guard active (reads active depth none)

/-- An operator takes the same operand and makes the same of it. -/
theorem placeless_operator (operator : Token) (make : Tree → Tree) {active : Option Token}
    {depth : Nat} {items : List Item} {makePlaceless : Tree → Tree}
    (same : ∀ operand, makePlaceless operand.placeless = (make operand).placeless)
    (after : ∀ behind, weights behind ≤ weights items → ReadsPlaceless limit behind) :
    ((readOperand limit (some operator.placeless) (depth + 1) (items.map Item.placeless)).bind
        fun answer =>
          match answer.1 with
          | none => .error (.missingOperand operator.placeless .right)
          | some operand => read limit (active.map Token.placeless) depth
            (some (makePlaceless operand)) answer.2) =
      Parsed.placeless placelessAnswer
        ((readOperand limit (some operator) (depth + 1) items).bind fun answer =>
          match answer.1 with
          | none => .error (.missingOperand operator .right)
          | some operand => read limit active depth (some (make operand)) answer.2) := by
  have operand := (after items (Nat.le_refl _)).readOperand (some operator) (depth + 1)
  rw [Option.map_some] at operand
  rw [operand]
  refine placeless_bind ?_
  rintro ⟨result, behind⟩ found
  cases result with
  | none => rfl
  | some operand =>
      have later := after behind (weights_readOperand_le found) active depth (some (make operand))
      rw [Option.map_some, ← same] at later
      exact later

theorem readsPlaceless_single {token : Token} {items : List Item}
    (after : ∀ behind, weights behind ≤ weights items → ReadsPlaceless limit behind) :
    ReadsPlaceless limit (.single token :: items) := by
  intro active depth left
  rw [List.map_cons, placeless_single]
  rcases left with _ | left
  · rw [Option.map_none]
    by_cases number : token.kind = .number
    · rw [read_number number, read_number (show token.placeless.kind = .number from number)]
      exact after items (Nat.le_refl _) active depth (some (leaf token))
    · rw [read_leading number, read_leading (show token.placeless.kind ≠ .number from number),
        leadingOperator_placeless]
      refine placeless_bind fun operator _ => ?_
      exact placeless_operator operator (.unary operator) (fun _ => rfl) after
  · rw [Option.map_some]
    by_cases number : token.kind = .number
    · rw [read_adjacent number, read_adjacent (show token.placeless.kind = .number from number)]
      rfl
    by_cases function : token.fixity.isSome = true
    · rw [read_function number function,
        read_function (show token.placeless.kind ≠ .number from number) function]
      rfl
    have plain : token.fixity = none := Option.not_isSome_iff_eq_none.mp function
    have binds := bindsTighter_placeless token active
    cases tighter : Operator.bindsTighter (some token) active with
    | true =>
        rw [tighter] at binds
        rw [read_between number plain tighter,
          read_between (show token.placeless.kind ≠ .number from number) plain binds]
        exact placeless_operator token.infixed (.binary token.infixed left) (fun _ => rfl) after
    | false =>
        rw [tighter] at binds
        rw [read_return number plain tighter,
          read_return (show token.placeless.kind ≠ .number from number) plain binds]
        simp [placelessAnswer]

theorem readsPlaceless_group {bracket : Option String} {position : Int}
    {inner items : List Item} (content : ReadsPlaceless limit inner)
    (after : ReadsPlaceless limit items) :
    ReadsPlaceless limit (.group bracket position inner :: items) := by
  intro active depth left
  have operand := content.readOperand none (depth + 1)
  rw [Option.map_none] at operand
  rw [List.map_cons, placeless_group, read_group, read_group, operand]
  refine placeless_bind ?_
  rintro ⟨result, behind⟩ -
  rcases result with _ | tree
  · rfl
  · rcases left with _ | left
    · exact after active depth (some tree)
    · have problem := adjacent_placeless (.group bracket position inner)
      rw [placeless_group] at problem
      exact congrArg Except.error problem

theorem readsPlaceless (items : List Item) : ReadsPlaceless limit items := by
  refine weights_induction ?_ (fun _ _ => readsPlaceless_single)
    (fun _ _ _ _ => readsPlaceless_group) items
  intro active depth left
  rw [List.map_nil, read_nil, read_nil]
  rfl

/-- The same tree is built wherever the items stand. -/
theorem ofGroup_placeless (config : Config) (group : Group) :
    ofGroup config group.placeless =
      Parsed.placeless (Option.map placeless) (ofGroup config group) := by
  rw [ofGroup_eq_readOperand, ofGroup_eq_readOperand]
  refine (congrArg _ ((readsPlaceless group.items).readOperand none 0)).trans ?_
  exact placeless_map _ fun _ => rfl

theorem ofTokens_placeless (config : Config) (tokens : List Token) :
    ofTokens config (tokens.map Token.placeless) =
      Parsed.placeless (Option.map placeless) (ofTokens config tokens) := by
  unfold ofTokens
  rw [Group.prepare_placeless]
  exact placeless_bind fun group _ => ofGroup_placeless config group

theorem shift_placeless (stack : List Tree) (token : Token) :
    shift (stack.map placeless) token.placeless =
      Parsed.placeless (List.map placeless) (shift stack token) := by
  unfold shift
  rw [show token.placeless.kind = token.kind from rfl,
    show token.placeless.lexeme = token.lexeme from rfl]
  cases token.kind with
  | bracket | number => rfl
  | operator | identifier =>
      simp only
      split
      · rcases stack with _ | ⟨right, _ | ⟨left, rest⟩⟩ <;> rfl
      · cases stack <;> rfl

/-- The same trees are read in postfix order wherever the tokens stand. -/
theorem ofPostfix_placeless (tokens : List Token) :
    ofPostfix (tokens.map Token.placeless) =
      Parsed.placeless (List.map placeless) (ofPostfix tokens) := by
  have run : ∀ (tokens : List Token) (stack : List Tree),
      (tokens.map Token.placeless).foldlM shift (stack.map placeless) =
        Parsed.placeless (List.map placeless) (tokens.foldlM shift stack) := by
    intro tokens
    induction tokens with
    | nil => exact fun stack => rfl
    | cons token tokens ih =>
        intro stack
        rw [List.map_cons, List.foldlM_cons, List.foldlM_cons, shift_placeless]
        exact placeless_bind fun stack _ => ih stack
  refine (congrArg _ (run tokens [])).trans (placeless_map _ fun trees => ?_)
  rw [List.map_reverse]

end Tree

/-- The same problem without the place of its token. -/
def EvaluationProblem.placeless : EvaluationProblem → EvaluationProblem
  | unknownFunction token => unknownFunction token.placeless
  | unknownConstant token => unknownConstant token.placeless
  | divisionByZero token => divisionByZero token.placeless
  | domainError token detail => domainError token.placeless detail

/-- The same failure without the place of its token. -/
def Failure.placeless {ε : Type} : Failure ε → Failure ε
  | .problem found => .problem found.placeless
  | .breakdown found => .breakdown found

namespace Evaluator

variable {V ε : Type} [ValueLike V] [FaultLike ε] (evaluator : Evaluator V ε)

theorem blame_placeless (token : Token) (fault : ε) :
    blame token.placeless fault = (blame token fault).placeless := by
  unfold blame
  cases FaultLike.cause fault <;> rfl

theorem blameLiteral_placeless (token : Token) (fault : ε) :
    blameLiteral token.placeless fault = (blameLiteral token fault).placeless := by
  unfold blameLiteral
  cases FaultLike.cause fault <;> rfl

theorem apply_placeless (token : Token) (operands : List V) :
    evaluator.apply token.placeless operands =
      (evaluator.apply token operands).mapError Failure.placeless := by
  unfold apply
  rw [show token.placeless.lexeme = token.lexeme from rfl]
  cases evaluator.operation? token.lexeme with
  | none => rfl
  | some operation =>
      cases computed : operation (ValueLike.spread operands) with
      | ok value => simp only [computed]; rfl
      | error fault =>
          simp only [computed]
          exact congrArg Except.error (blame_placeless token fault)

theorem leafValue_placeless (token : Token) :
    evaluator.leafValue token.placeless =
      (evaluator.leafValue token).mapError Failure.placeless := by
  unfold leafValue
  rw [show token.placeless.isConstant = token.isConstant from rfl,
    show token.placeless.lexeme = token.lexeme from rfl,
    show token.placeless.value = token.value from rfl]
  split
  · cases evaluator.constants.lookup token.lexeme <;> rfl
  · cases evaluator.literal (ValueLike.ofLiteral token.value) with
    | error fault => exact congrArg Except.error (blameLiteral_placeless token fault)
    | ok value => rfl

/-- A tree has the same value wherever it stands, or fails for the same reason. -/
theorem evaluate_placeless (tree : Tree) :
    evaluator.evaluate tree.placeless =
      (evaluator.evaluate tree).mapError Failure.placeless := by
  induction tree with
  | leaf token => exact evaluator.leafValue_placeless token
  | unary operator operand ih =>
      rw [Tree.placeless, evaluate, evaluate, ih]
      cases evaluator.evaluate operand with
      | error failure => rfl
      | ok value => exact evaluator.apply_placeless operator [value]
  | binary operator left right leftIh rightIh =>
      rw [Tree.placeless, evaluate, evaluate, leftIh, rightIh]
      cases evaluator.evaluate left with
      | error failure => rfl
      | ok first =>
          cases evaluator.evaluate right with
          | error failure => rfl
          | ok second => exact evaluator.apply_placeless operator [first, second]

theorem evaluateAll_placeless (trees : List Tree) :
    evaluator.evaluateAll (trees.map Tree.placeless) =
      (evaluator.evaluateAll trees).mapError Failure.placeless := by
  unfold evaluateAll
  induction trees with
  | nil => rfl
  | cons tree trees ih =>
      rw [List.map_cons, List.mapM_cons, List.mapM_cons, evaluate_placeless, ih]
      cases evaluator.evaluate tree with
      | error failure => rfl
      | ok value => cases trees.mapM evaluator.evaluate <;> rfl

end Evaluator

end Calculator
