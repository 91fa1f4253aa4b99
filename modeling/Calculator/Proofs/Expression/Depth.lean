import Calculator.Proofs.Parse.Completeness

/-!
# Expressions that nest too deep

Three stages watch the limit of nesting: brackets are counted when they are nested, open
frames inside brackets when suffixes move, and operands inside operands when the tree is
built. Each of them refuses what it finds too deep with the same kind of problem
(`TooDeep`), and what the first two let pass the third one refuses if the depth of the
expression is beyond the limit (`Expression.tooDeep_ofTokens`).
-/

namespace Calculator

open Item

/-- The answer is that the limit of nesting has been passed. -/
def TooDeep {α : Type} (limit : Nat) (answer : Except ParseProblem α) : Prop :=
  ∃ token, answer = .error (.tooDeep token limit)

namespace TooDeep

variable {α β : Type} {limit : Nat} {answer : Except ParseProblem α}

theorem map (f : α → β) (deep : TooDeep limit answer) : TooDeep limit (answer.map f) := by
  obtain ⟨token, rfl⟩ := deep
  exact ⟨token, rfl⟩

theorem bind (f : α → Except ParseProblem β) (deep : TooDeep limit answer) :
    TooDeep limit (answer.bind f) := by
  obtain ⟨token, rfl⟩ := deep
  exact ⟨token, rfl⟩

end TooDeep

namespace Group

variable {config : Config}

/-- Brackets that nest too deep are refused, whatever follows. -/
theorem tooDeep_nest {items : List Item} {content : List Token}
    (spells : Spells config items content) (opener : Option Token) (depth : Nat)
    (rest : List Token) (shallow : depth ≤ config.maxDepth)
    (deep : config.maxDepth < depth + nestingIn items) :
    TooDeep config.maxDepth (nest config opener depth (content ++ rest)) := by
  induction spells generalizing opener depth rest with
  | nil => exact absurd deep (Nat.not_lt.mpr shallow)
  | single plain _ ih =>
      simp only [nestingIn, nesting] at deep
      rw [List.cons_append, nest_single plain]
      exact (ih opener depth rest shallow (by omega)).map _
  | @group first closer inner items content tokens opens closes inside _ innerIh ih =>
      simp only [nestingIn, nesting] at deep
      rw [List.cons_append, List.append_assoc, List.cons_append, nest_opener opens]
      split
      · exact ⟨_, rfl⟩
      rename_i open'
      by_cases innerDeep : config.maxDepth < depth + 1 + nestingIn inner
      · exact (innerIh (some first) (depth + 1) _ (Nat.not_lt.mp open') innerDeep).bind _
      · have nested : nest config (some first) (depth + 1) (content ++ closer :: (tokens ++ rest)) =
            .ok (inner, tokens ++ rest) := by
          rw [nest_append inside (some first) (depth + 1) _ (Nat.not_lt.mp innerDeep),
            nest_closer closes]
          simp [Except.map]
        rw [nested]
        exact (ih opener depth rest shallow (by omega)).map _

theorem tooDeep_ofTokens {items : List Item} {tokens : List Token}
    (spells : Spells config items tokens) (deep : config.maxDepth < nestingIn items) :
    TooDeep config.maxDepth (ofTokens config tokens) := by
  have refused := tooDeep_nest spells none 0 [] (Nat.zero_le _) (by omega)
  rw [List.append_nil] at refused
  rw [ofTokens_eq_nest]
  exact refused.map _

end Group

namespace Expression

variable {config : Config} {e : Expression}

/-- The suffixes of a conforming expression move, or they nest too deep. -/
theorem relocateSuffixes_items_or_tooDeep (conforming : e.Conforming) (fitted : e.Fitted) :
    Group.relocateSuffixes config { items := e.items } = .ok { items := e.relocated } ∨
      TooDeep config.maxDepth (Group.relocateSuffixes config { items := e.items }) := by
  rw [Group.relocateSuffixes]
  cases gathered : gather config.maxDepth 0 e.items with
  | error problem =>
      obtain ⟨token, rfl⟩ := eq_tooDeep_of_gather e.items 0 problem gathered
      exact .inr ⟨token, rfl⟩
  | ok frames =>
      rw [gather_eq_enterAll] at gathered
      have alike := (alike_of_enterAll conforming fitted Frames.waiting_empty
        (fun none => absurd rfl none) gathered).1
      have same : frames.items = e.relocated := by
        rw [alike.items]
        exact List.append_nil _
      refine .inl ?_
      rw [Except.map, same]

end Expression

namespace Tree

variable {limit depth : Nat} {active : Option Token}

/-- An operand is too deep where it stands, or inside. -/
theorem tooDeep_readOperand {items : List Item}
    (deep : depth ≤ limit → TooDeep limit (read limit active depth none items)) :
    TooDeep limit (readOperand limit active depth items) := by
  rw [readOperand]
  split
  · exact ⟨active, rfl⟩
  · rename_i shallow
    exact deep (Nat.not_lt.mp shallow)

open Expression in
/-- Building the tree of a conforming expression that nests too deep is refused. -/
theorem tooDeep_relocated (e : Expression) (conforming : e.Conforming) (fitted : e.Fitted)
    (depth : Nat) (active : Option Token) (rest : List Item) (shallow : depth ≤ limit)
    (deep : limit < depth + e.depth) (yields : ∀ operator ∈ active, YieldsTo operator e.spine)
    (delimits : Delimits e.rightEdge rest) :
    TooDeep limit (read limit active depth none (e.relocated ++ rest)) := by
  induction e generalizing depth active rest with
  | leaf token => exact absurd deep (Nat.not_lt.mpr shallow)
  | bracketed opener inner closer ih =>
      simp only [Expression.depth] at deep
      rw [relocated, List.cons_append, List.nil_append, read_group]
      refine TooDeep.bind _ (tooDeep_readOperand fun inside => ?_)
      have content := ih conforming fitted (depth + 1) none [] inside (by omega)
        (fun _ impossible => absurd impossible (Option.not_mem_none _)) (.inl rfl)
      rwa [List.append_nil] at content
  | prefixed operator operand ih =>
      simp only [Expression.depth] at deep
      rw [relocated, List.cons_append, read_leading (Token.kind_ne_number_of_leading fitted.1),
        leadingOperator_eq fitted.1]
      change TooDeep limit ((readOperand limit (some operator.leading) (depth + 1)
        (operand.relocated ++ rest)).bind _)
      refine TooDeep.bind _ (tooDeep_readOperand fun inside => ?_)
      exact ih conforming.2 fitted.2 (depth + 1) (some operator.leading) rest inside (by omega)
        (fun _ same token member => Option.some.inj same ▸
          conforming.1 token (spine_subset_leftEdge operand member))
        (delimits.mono (List.subset_cons_self _ _))
  | infixed left operator right leftIh rightIh =>
      simp only [Expression.depth] at deep
      have leftYields : ∀ outer ∈ active, YieldsTo outer left.spine :=
        fun outer same token member => yields outer same token (List.mem_cons_of_mem _ member)
      have leftDelimits : Delimits left.rightEdge
          (.single operator :: (right.relocated ++ rest)) :=
        .inr ⟨operator, _, rfl, fitted.1, conforming.1⟩
      rw [relocated, List.append_assoc, List.cons_append]
      by_cases leftDeep : limit < depth + left.depth
      · exact leftIh conforming.2.2.1 fitted.2.1 depth active _ shallow leftDeep leftYields
          leftDelimits
      · have notNumber : operator.kind ≠ .number := by
          rw [fitted.1.1]
          decide
        have tighter : Operator.bindsTighter (some operator) active = true := by
          cases active with
          | none => rfl
          | some outer =>
              rw [← Operator.bindsTighter_infixed fitted.1.2.1]
              exact yields outer rfl operator.infixed List.mem_cons_self
        rw [read_relocated left conforming.2.2.1 fitted.2.1 depth active _ (Nat.not_lt.mp leftDeep)
          leftYields leftDelimits, read_between notNumber fitted.1.2.1 tighter]
        refine TooDeep.bind _ (tooDeep_readOperand fun inside => ?_)
        exact rightIh conforming.2.2.2 fitted.2.2 (depth + 1) (some operator.infixed) rest inside
          (by omega) (fun _ same token member => Option.some.inj same ▸
            conforming.2.1 token (spine_subset_leftEdge right member))
          (delimits.mono (List.subset_cons_self _ _))
  | suffixed operand operator ih =>
      simp only [Expression.depth] at deep
      have notNumber : operator.suffixed.kind ≠ .number := by
        change operator.kind ≠ .number
        rw [fitted.1.1]
        decide
      have moved : leadingOperator operator.suffixed = .ok operator.suffixed := rfl
      have tight := isTight_of_mem_spine conforming.2
        (isTight_of_holdsOff fitted.2 fitted.1 conforming.1)
      have operandYields : ∀ outer ∈ some operator.suffixed, YieldsTo outer operand.spine := by
        rintro outer ⟨⟩ token member
        rw [Operator.bindsTighter_suffixed token operator.suffixed fitted.1.2.2 rfl]
        exact tight token member
      rw [relocated, List.cons_append, List.nil_append, read_group]
      refine TooDeep.bind _ (tooDeep_readOperand fun _ => ?_)
      rw [read_leading notNumber, moved]
      change TooDeep limit ((readOperand limit (some operator.suffixed) (depth + 1 + 1)
        operand.relocated).bind _)
      refine TooDeep.bind _ (tooDeep_readOperand fun inside => ?_)
      have content := ih conforming.2 fitted.2 (depth + 1 + 1) (some operator.suffixed) [] inside
        (by omega) operandYields (.inl rfl)
      rwa [List.append_nil] at content

end Tree

namespace Expression

variable {config : Config} {e : Expression}

/-- Whichever stage refuses it first, an expression that nests too deep is refused for
that. -/
theorem tooDeep_ofTokens (formed : e.WellFormed config) (conforming : e.Conforming)
    (deep : config.maxDepth < e.depth) :
    TooDeep config.maxDepth (Tree.ofTokens config e.tokens) := by
  by_cases bracketsDeep : config.maxDepth < nestingIn e.items
  · exact ((Group.tooDeep_ofTokens (spells_items formed) bracketsDeep).bind _).bind _
  rw [Tree.ofTokens, prepare_eq_relocateSuffixes formed (Nat.not_lt.mp bracketsDeep)]
  rcases @relocateSuffixes_items_or_tooDeep config e conforming formed.fitted with moved | refused
  · rw [moved]
    change TooDeep config.maxDepth (Tree.ofGroup config { items := e.relocated })
    have built := @Tree.tooDeep_relocated config.maxDepth e conforming formed.fitted 0 none []
      (Nat.zero_le _) (by omega)
      (fun _ impossible => absurd impossible (Option.not_mem_none _)) (.inl rfl)
    rw [List.append_nil] at built
    rw [Tree.ofGroup_eq_readOperand]
    exact (Tree.tooDeep_readOperand fun _ => built).map _
  · exact refused.bind _

end Expression

end Calculator
