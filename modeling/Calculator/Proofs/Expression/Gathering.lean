import Calculator.Proofs.Expression.Spelling
import Calculator.Proofs.Group.Giving

/-!
# Gathering the items of an expression

The items of a conforming expression enter the frames from the right and arrive in
the innermost one as a whole, with their suffixes moved
(`Expression.alike_of_enterAll`). They do arrive if the limit of nesting allows the
depth of the expression (`Expression.exists_enterAll`).
-/

namespace Calculator

namespace Expression

open Item Frames

variable {limit depth : Nat}

theorem isPendingSuffix_of_number {token : Token} (number : token.kind = .number) :
    token.isPendingSuffix = false := by
  rw [Token.isPendingSuffix, number]
  rfl

theorem isPendingSuffix_of_leads {token : Token} (role : token.IsFunction ∨ token.IsSign) :
    token.isPendingSuffix = false := by
  rcases role with role | role
  · simp [Token.isPendingSuffix, role.2.1]
  · have sign : Operator.isSuffixed "-" = false := by decide
    rw [Token.isPendingSuffix, role.2.2, sign, Bool.and_false]

theorem isPendingSuffix_of_isInfix {token : Token} (role : token.IsInfix) :
    token.isPendingSuffix = false := by
  have between := endsValue_of_isInfix role
  rw [endsValue, role.1] at between
  rw [Token.isPendingSuffix, role.1, role.2.1]
  exact between

theorem isPendingSuffix_of_isSuffix {token : Token} (role : token.IsSuffix) :
    token.isPendingSuffix = true := by
  rw [Token.isPendingSuffix, role.1, role.2.1, role.2.2]
  rfl

/-- An operator that may stand before its operand is not tight. -/
theorem isTight_of_leads {token : Token} (role : token.IsFunction ∨ token.IsSign) :
    Item.isTight (.single token) = false := by
  rcases role with role | role
  · rw [Item.isTight, Token.isTight_prefixed role.2.1, Bool.and_false]
  · rw [Item.isTight, Token.isTight, Token.precedence, role.2.1, role.2.2]
    exact Bool.and_false _

theorem isTight_of_isInfix {token : Token} (role : token.IsInfix) :
    Item.isTight (.single token) = token.infixed.isTight := by
  rw [Item.isTight, role.1, Token.isTight_infixed role.2.1]
  rfl

theorem isOperator_of_kind {token : Token} (operator : token.kind = .operator) :
    Item.isOperator (.single token) = true := by
  rw [Item.isOperator, operator]
  rfl

/-- No frame is open around an operator before its operand. -/
theorem opened_eq_nil {operator : Token} {operand : Expression} {frames : Frames}
    (role : operator.IsFunction ∨ operator.IsSign)
    (tight : frames.opened ≠ [] →
      ∀ token ∈ (prefixed operator operand).rightEdge, token.isTight = true) :
    frames.opened = [] := by
  by_cases none : frames.opened = []
  · exact none
  · have front := tight none operator.leading List.mem_cons_self
    rw [Token.isTight_prefixed (leading_fixity role)] at front
    cases front

/-- An expression that yields to a tight operator is open to tight operators only. -/
theorem isTight_of_yieldsTo {operator : Token} (tight : operator.isTight = true)
    {edge : List Token} (yields : YieldsTo operator edge) :
    ∀ token ∈ edge, token.isTight = true := by
  intro token member
  have bound := Operator.le_of_bindsTighter (yields token member)
  exact Token.isTight_iff.mpr (Int.lt_of_lt_of_le (Token.isTight_iff.mp tight) bound)

/-- What an operator between operands finds when the right one has arrived. -/
theorem insert_between {operator : Token} {right : Expression} {frames middle : Frames}
    (role : operator.IsInfix) (yields : YieldsTo operator.infixed right.leftEdge)
    (alike : Alike middle (frames.give right.relocated) ∧
      ((∀ token ∈ right.leftEdge, token.isTight = true) → middle = frames.give right.relocated)) :
    middle.insert (.single operator) = (frames.give right.relocated).insert (.single operator) := by
  cases strength : operator.infixed.isTight with
  | true => rw [alike.2 (isTight_of_yieldsTo strength yields)]
  | false =>
      exact alike.1.insert _ (isOperator_of_kind role.1) ((isTight_of_isInfix role).trans strength)

/-- The frames wait for the left operand when the right one and the operator have
arrived. -/
theorem waiting_between {left right : Expression} {operator : Token} {frames : Frames}
    (role : operator.IsInfix) (holds : HoldsOff operator.infixed left.rightEdge)
    (waiting : frames.Waiting)
    (tight : frames.opened ≠ [] →
      ∀ token ∈ (infixed left operator right).rightEdge, token.isTight = true) :
    let between := (frames.give right.relocated).insert (.single operator)
    between.Waiting ∧ (between.opened ≠ [] → ∀ token ∈ left.rightEdge, token.isTight = true) ∧
      between.opened.length = frames.opened.length := by
  have strong : frames.opened ≠ [] → Item.isTight (.single operator) = true := fun some =>
    (isTight_of_isInfix role).trans (tight some _ List.mem_cons_self)
  obtain ⟨waits, -, count⟩ :=
    insert_give waiting (isOperator_of_kind role.1) strong right.relocated
  refine ⟨waits, fun some => isTight_of_holdsOff_tight ?_ holds, count⟩
  refine tight (fun none => some ?_) _ List.mem_cons_self
  rw [none] at count
  exact List.eq_nil_of_length_eq_zero count

theorem give_between {left right : Expression} {operator : Token} {frames : Frames}
    (role : operator.IsInfix) (waiting : frames.Waiting)
    (tight : frames.opened ≠ [] →
      ∀ token ∈ (infixed left operator right).rightEdge, token.isTight = true) :
    ((frames.give right.relocated).insert (.single operator)).give left.relocated =
      frames.give (infixed left operator right).relocated := by
  have strong : frames.opened ≠ [] → Item.isTight (.single operator) = true := fun some =>
    (isTight_of_isInfix role).trans (tight some _ List.mem_cons_self)
  exact (insert_give waiting (isOperator_of_kind role.1) strong right.relocated).2.1 left.relocated

/-- The items of a conforming expression arrive as a whole. If it is open to the
left for tight operators only, no frame is left open by it. -/
theorem alike_of_enterAll {e : Expression} (conforming : e.Conforming) (fitted : e.Fitted)
    {frames after : Frames} (waiting : frames.Waiting)
    (tight : frames.opened ≠ [] → ∀ token ∈ e.rightEdge, token.isTight = true)
    (entered : enterAll limit depth e.items frames = .ok after) :
    Alike after (frames.give e.relocated) ∧
      ((∀ token ∈ e.leftEdge, token.isTight = true) → after = frames.give e.relocated) := by
  induction e generalizing depth frames after with
  | leaf token =>
      have arrived : frames.insert (.single token) = after := by
        rw [items, enterAll, enterAll, Except.bind,
          enter_single (isPendingSuffix_of_number fitted)] at entered
        exact Except.ok.inj entered
      have value : Item.isOperator (.single token) = false := by
        rw [Item.isOperator, show token.kind = .number from fitted]
        rfl
      rw [← arrived, insert_of_waiting waiting value]
      exact ⟨.refl _, fun _ => rfl⟩
  | bracketed opener inner closer ih =>
      rw [items, enterAll, enterAll, Except.bind, enter_group] at entered
      split at entered
      · cases entered
      rw [gather_eq_enterAll] at entered
      obtain ⟨content, inside, rfl⟩ := exists_of_map entered
      have alike := (ih conforming fitted waiting_empty (fun none => absurd rfl none) inside).1
      have same : content.items = inner.relocated := by
        rw [alike.items]
        exact List.append_nil _
      simp only [same]
      rw [insert_of_waiting waiting rfl]
      exact ⟨.refl _, fun _ => rfl⟩
  | prefixed operator operand ih =>
      have none := opened_eq_nil fitted.1 tight
      rw [items, enterAll] at entered
      obtain ⟨middle, inside, entered⟩ := exists_of_bind entered
      rw [enter_single (isPendingSuffix_of_leads fitted.1)] at entered
      cases entered
      have alike := (ih conforming.2 fitted.2 waiting (fun some => absurd none some) inside).1
      have kind : operator.kind = .operator := by
        rcases fitted.1 with role | role <;> exact role.1
      rw [alike.insert _ (isOperator_of_kind kind) (isTight_of_leads fitted.1)]
      obtain ⟨opened, outside⟩ := frames
      obtain rfl : opened = [] := none
      exact ⟨.refl _, fun _ => rfl⟩
  | infixed left operator right leftIh rightIh =>
      rw [items, enterAll_append, enterAll] at entered
      obtain ⟨before, placed, entered⟩ := exists_of_bind entered
      obtain ⟨middle, inside, placed⟩ := exists_of_bind placed
      rw [enter_single (isPendingSuffix_of_isInfix fitted.1)] at placed
      obtain rfl := Except.ok.inj placed
      have alike := rightIh conforming.2.2.2 fitted.2.2 waiting
        (fun some token member => tight some token (List.mem_cons_of_mem _ member)) inside
      rw [insert_between fitted.1 conforming.2.1 alike] at entered
      obtain ⟨waits, leftTight, -⟩ := waiting_between fitted.1 conforming.1 waiting tight
      obtain ⟨whole, exact'⟩ := leftIh conforming.2.2.1 fitted.2.1 waits leftTight entered
      rw [give_between fitted.1 waiting tight] at whole exact'
      exact ⟨whole, fun edge => exact' fun token member =>
        edge token (List.mem_cons_of_mem _ member)⟩
  | suffixed operand operator ih =>
      have pending := isPendingSuffix_of_isSuffix fitted.1
      rw [items, enterAll_append, enterAll, enterAll, Except.bind, enter_suffix pending] at entered
      split at entered
      · cases entered
      rw [settle_of_waiting waiting] at entered
      have strong := isTight_of_holdsOff fitted.2 fitted.1 conforming.1
      obtain ⟨whole, -⟩ := ih conforming.2 fitted.2 (waiting_push pending frames) (fun _ => strong)
        entered
      have moved := Token.isMovedSuffix_suffixed pending
      refine ⟨?_, fun edge => ?_⟩
      · have closed := @alike_give_relocated
          ⟨operator.suffixed, operand.relocated ++ [], true⟩ moved frames.opened frames.outside
        rw [List.append_nil] at closed
        refine whole.trans ?_
        simpa [give, push, relocated, Frame.relocated, Token.suffixed] using closed
      · have weak := edge operator.suffixed List.mem_cons_self
        rw [moved.isTight_eq] at weak
        cases weak

/-- The items of a conforming expression arrive if the limit of nesting allows its
depth inside the open frames. -/
theorem exists_enterAll {e : Expression} (conforming : e.Conforming) (fitted : e.Fitted)
    {frames : Frames} (waiting : frames.Waiting)
    (tight : frames.opened ≠ [] → ∀ token ∈ e.rightEdge, token.isTight = true)
    (shallow : depth + frames.opened.length + e.depth ≤ limit) :
    ∃ after, enterAll limit depth e.items frames = .ok after := by
  induction e generalizing depth frames with
  | leaf token =>
      refine ⟨frames.insert (.single token), ?_⟩
      rw [items, enterAll, enterAll, Except.bind, enter_single (isPendingSuffix_of_number fitted)]
  | bracketed opener inner closer ih =>
      simp only [Expression.depth] at shallow
      have shallowInner : depth + 1 + Frames.empty.opened.length + inner.depth ≤ limit := by
        rw [Frames.empty, List.length_nil]
        omega
      obtain ⟨content, inside⟩ := ih conforming fitted waiting_empty
        (fun none => absurd rfl none) shallowInner
      refine ⟨frames.insert (.group (some opener.lexeme) opener.position content.items), ?_⟩
      rw [items, enterAll, enterAll, Except.bind, enter_group, if_neg (by omega),
        gather_eq_enterAll, inside, Except.map]
  | prefixed operator operand ih =>
      simp only [Expression.depth] at shallow
      have none := opened_eq_nil fitted.1 tight
      have shallowOperand : depth + frames.opened.length + operand.depth ≤ limit := by omega
      obtain ⟨middle, inside⟩ := ih conforming.2 fitted.2 waiting (fun some => absurd none some)
        shallowOperand
      refine ⟨middle.insert (.single operator), ?_⟩
      rw [items, enterAll, inside, Except.bind, enter_single (isPendingSuffix_of_leads fitted.1)]
  | infixed left operator right leftIh rightIh =>
      simp only [Expression.depth] at shallow
      have rightTight : frames.opened ≠ [] → ∀ token ∈ right.rightEdge, token.isTight = true :=
        fun some token member => tight some token (List.mem_cons_of_mem _ member)
      have shallowRight : depth + frames.opened.length + right.depth ≤ limit := by omega
      obtain ⟨middle, inside⟩ := rightIh conforming.2.2.2 fitted.2.2 waiting rightTight shallowRight
      have alike := alike_of_enterAll conforming.2.2.2 fitted.2.2 waiting rightTight inside
      obtain ⟨waits, leftTight, count⟩ :=
        waiting_between fitted.1 conforming.1 waiting tight
      have shallowLeft : depth + frames.opened.length + left.depth ≤ limit := by omega
      rw [← count] at shallowLeft
      obtain ⟨after, entered⟩ := leftIh conforming.2.2.1 fitted.2.1 waits leftTight shallowLeft
      refine ⟨after, ?_⟩
      rw [items, enterAll_append, enterAll, inside, Except.bind,
        enter_single (isPendingSuffix_of_isInfix fitted.1), Except.bind,
        insert_between fitted.1 conforming.2.1 alike, entered]
  | suffixed operand operator ih =>
      simp only [Expression.depth] at shallow
      have pending := isPendingSuffix_of_isSuffix fitted.1
      have strong := isTight_of_holdsOff fitted.2 fitted.1 conforming.1
      obtain ⟨after, entered⟩ := ih conforming.2 fitted.2 (waiting_push pending frames)
        (fun _ => strong) (show depth + (frames.opened.length + 1) + operand.depth ≤ limit by omega)
      refine ⟨after, ?_⟩
      rw [items, enterAll_append, enterAll, enterAll, Except.bind, enter_suffix pending,
        settle_of_waiting waiting, if_neg (by omega)]
      exact entered

/-- Moving the suffixes of a conforming expression gives its relocated items. -/
theorem relocateSuffixes_items {config : Config} {e : Expression} (conforming : e.Conforming)
    (fitted : e.Fitted) (shallow : e.depth ≤ config.maxDepth) :
    Group.relocateSuffixes config { items := e.items } = .ok { items := e.relocated } := by
  have free : Frames.empty.opened ≠ [] → ∀ token ∈ e.rightEdge, token.isTight = true :=
    fun none => absurd rfl none
  have shallowEmpty : 0 + Frames.empty.opened.length + e.depth ≤ config.maxDepth := by
    rw [Frames.empty, List.length_nil]
    omega
  obtain ⟨after, entered⟩ := exists_enterAll conforming fitted waiting_empty free shallowEmpty
  have alike := (alike_of_enterAll conforming fitted waiting_empty free entered).1
  have same : after.items = e.relocated := by
    rw [alike.items]
    exact List.append_nil _
  rw [Group.relocateSuffixes, gather_eq_enterAll, entered, Except.map, same]

end Expression

end Calculator
