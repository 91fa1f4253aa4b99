import Calculator.Parse
import Calculator.Proofs.Group.Frames
import Calculator.Proofs.Group.Nesting
import Calculator.Proofs.Tree.Reading

/-!
# Settings that allow more

Settings can be relaxed: a higher limit of nesting, or brackets that need not match
(`Config.Relaxes`). A text that is refused for other reasons than these two, or read, comes
to the same with the relaxed settings (`parse_of_relaxed`). Each stage either stops at a
guard of the settings or goes on as it would without it (`Survives`), and this is kept when
stages follow each other (`Survives.bind`).
-/

namespace Calculator

/-- Settings that allow what others allow: the same constants, a limit of nesting that is no
lower, and brackets that need not match where they need not by the others. -/
structure Config.Relaxes (wide config : Config) : Prop where
  constants : ∀ name, wide.isConstant name = config.isConstant name
  deeper : config.maxDepth ≤ wide.maxDepth
  looser : config.strictBrackets = false → wide.strictBrackets = false

/-- A problem that is due to the limit of nesting or to brackets having to match. -/
def ParseProblem.IsGuard (problem : ParseProblem) : Prop :=
  problem.report.kind = .tooDeeplyNested ∨ problem.report.kind = .mismatchedBrackets

/-- The second result is the first one, unless the first is a problem of the settings. -/
def Survives {α : Type} (first second : Except ParseProblem α) : Prop :=
  second = first ∨ ∃ problem, first = .error problem ∧ problem.IsGuard

namespace Survives

variable {α β : Type}

theorem refl (result : Except ParseProblem α) : Survives result result := .inl rfl

theorem of_guard {problem : ParseProblem} (guard : problem.IsGuard)
    (second : Except ParseProblem α) : Survives (.error problem) second :=
  .inr ⟨problem, rfl, guard⟩

/-- Where one stage follows another, both have to survive, the second one only with what the
first one hands over. -/
theorem bind {first second : Except ParseProblem α} {next after : α → Except ParseProblem β}
    (survives : Survives first second)
    (later : ∀ value, first = .ok value → Survives (next value) (after value)) :
    Survives (first.bind next) (second.bind after) := by
  rcases survives with rfl | ⟨problem, rfl, guard⟩
  · cases second with
    | error problem => exact .refl _
    | ok value => exact later value rfl
  · exact of_guard guard _

theorem map {first second : Except ParseProblem α} (survives : Survives first second)
    (make : α → β) : Survives (first.map make) (second.map make) := by
  rcases survives with rfl | ⟨problem, rfl, guard⟩
  · exact .refl _
  · exact of_guard guard _

/-- A limit of nesting that is raised lets through what it let through before. -/
theorem guarded {low high depth : Nat} (higher : low ≤ high) (token : Option Token)
    {first second : Except ParseProblem α} (survives : Survives first second) :
    Survives (if low < depth then .error (.tooDeep token low) else first)
      (if high < depth then .error (.tooDeep token high) else second) := by
  by_cases deep : low < depth
  · rw [if_pos deep]
    exact of_guard (.inl rfl) _
  · rw [if_neg deep, if_neg (by omega)]
    exact survives

end Survives

variable {config wide : Config}

namespace Config.Relaxes

theorem strict (relaxes : wide.Relaxes config) (strictly : wide.strictBrackets = true) :
    config.strictBrackets = true := by
  by_contra loose
  rw [relaxes.looser (Bool.eq_false_iff.mpr loose)] at strictly
  cases strictly

theorem closes (relaxes : wide.Relaxes config) {opener closer : Token}
    (closes : Token.Closes config opener closer) : Token.Closes wide opener closer :=
  ⟨closes.1, fun strictly => closes.2 (relaxes.strict strictly)⟩

theorem ofSource_eq (relaxes : wide.Relaxes config) (source : String) :
    Token.ofSource wide source = Token.ofSource config source := by
  rw [Token.ofSource, Token.ofSource, Token.classify_congr relaxes.constants]

end Config.Relaxes

namespace Group

theorem survives_closer (relaxes : wide.Relaxes config) {token : Token} (closes : token.IsCloser)
    (opener : Option Token) (depth : Nat) (tokens : List Token) :
    Survives (nest config opener depth (token :: tokens))
      (nest wide opener depth (token :: tokens)) := by
  cases opener with
  | none =>
      rw [nest_stray closes, nest_stray closes]
      exact .refl _
  | some opener =>
      by_cases matching : Token.Closes config opener token
      · rw [nest_closer matching, nest_closer (relaxes.closes matching)]
        exact .refl _
      · rw [nest_mismatched closes matching]
        exact .of_guard (.inr rfl) _

/-- The brackets are nested in the same way. -/
theorem survives_nest (relaxes : wide.Relaxes config) (opener : Option Token) (depth : Nat)
    (tokens : List Token) :
    Survives (nest config opener depth tokens) (nest wide opener depth tokens) := by
  induction tokens using Token.bracket_induction generalizing opener depth with
  | nil =>
      cases opener with
      | none =>
          rw [nest_nil_none, nest_nil_none]
          exact .refl _
      | some opener =>
          rw [nest_nil_some, nest_nil_some]
          exact .refl _
  | plain token tokens plain ih =>
      rw [nest_single plain, nest_single plain]
      exact .map (ih opener depth) _
  | opener token tokens opens ih =>
      rw [nest_opener opens, nest_opener opens]
      refine .guarded relaxes.deeper _
        (.bind (ih tokens (Nat.le_refl _) (some token) (depth + 1)) ?_)
      exact fun inner nested => .map (ih inner.2 (length_nest_le nested) opener depth) _
  | closer token tokens closes => exact survives_closer relaxes closes opener depth tokens

end Group

namespace Item

variable {low high : Nat}

/-- The suffixes are moved in the same way. -/
theorem survives_gather (higher : low ≤ high) :
    ∀ (items : List Item) (depth : Nat), Survives (gather low depth items) (gather high depth items)
  | [], depth => by
      rw [gather, gather]
      exact .refl _
  | .single token :: rest, depth => by
      rw [gather, gather]
      refine .bind (survives_gather higher rest depth) fun frames _ => ?_
      cases pending : token.isPendingSuffix with
      | true =>
          rw [enter_suffix pending, enter_suffix pending]
          exact .guarded higher _ (.refl _)
      | false =>
          rw [enter_single pending, enter_single pending]
          exact .refl _
  | .group bracket position items :: rest, depth => by
      rw [gather, gather]
      refine .bind (survives_gather higher rest depth) fun frames _ => ?_
      rw [enter_group, enter_group]
      exact .guarded higher _ (.map (survives_gather higher items (depth + 1)) _)

end Item

namespace Tree

open Item

variable {low high : Nat}

/-- Reading on from the items comes to the same. -/
def Steady (low high : Nat) (items : List Item) : Prop :=
  ∀ active depth left,
    Survives (read low active depth left items) (read high active depth left items)

theorem Steady.readOperand (higher : low ≤ high) {items : List Item}
    (steady : Steady low high items) (active : Option Token) (depth : Nat) :
    Survives (readOperand low active depth items) (readOperand high active depth items) :=
  .guarded higher active (steady active depth none)

/-- An operator takes the same operand and makes the same of it. -/
theorem survives_operator (higher : low ≤ high) {operator : Token} {active : Option Token}
    {depth : Nat} {items : List Item} (make : Tree → Tree)
    (after : ∀ behind, weights behind ≤ weights items → Steady low high behind) :
    Survives
      ((readOperand low (some operator) (depth + 1) items).bind fun answer =>
        match answer.1 with
        | none => .error (.missingOperand operator .right)
        | some operand => read low active depth (some (make operand)) answer.2)
      ((readOperand high (some operator) (depth + 1) items).bind fun answer =>
        match answer.1 with
        | none => .error (.missingOperand operator .right)
        | some operand => read high active depth (some (make operand)) answer.2) := by
  refine .bind ((after items (Nat.le_refl _)).readOperand higher _ _) ?_
  rintro ⟨result, behind⟩ found
  cases result with
  | none => exact .refl _
  | some operand => exact after behind (weights_readOperand_le found) active depth _

theorem steady_single (higher : low ≤ high) {token : Token} {items : List Item}
    (after : ∀ behind, weights behind ≤ weights items → Steady low high behind) :
    Steady low high (.single token :: items) := by
  intro active depth left
  rcases left with _ | left
  · by_cases number : token.kind = .number
    · rw [read_number number, read_number number]
      exact after items (Nat.le_refl _) active depth _
    · rw [read_leading number, read_leading number]
      exact .bind (.refl _) fun operator _ => survives_operator higher (.unary operator) after
  · by_cases number : token.kind = .number
    · rw [read_adjacent number, read_adjacent number]
      exact .refl _
    · by_cases function : token.fixity.isSome = true
      · rw [read_function number function, read_function number function]
        exact .refl _
      · have plain : token.fixity = none := Option.not_isSome_iff_eq_none.mp function
        cases tighter : Operator.bindsTighter (some token) active with
        | true =>
            rw [read_between number plain tighter, read_between number plain tighter]
            exact survives_operator higher (.binary token.infixed left) after
        | false =>
            rw [read_return number plain tighter, read_return number plain tighter]
            exact .refl _

theorem steady_group (higher : low ≤ high) {bracket : Option String} {position : Int}
    {inner items : List Item} (content : Steady low high inner) (after : Steady low high items) :
    Steady low high (.group bracket position inner :: items) := by
  intro active depth left
  rw [read_group, read_group]
  refine .bind (content.readOperand higher none (depth + 1)) ?_
  rintro ⟨result, behind⟩ -
  rcases result with _ | tree
  · exact .refl _
  · rcases left with _ | left
    · exact after active depth _
    · exact .refl _

theorem steady (higher : low ≤ high) (items : List Item) : Steady low high items := by
  refine weights_induction ?_ (fun _ _ => steady_single higher)
    (fun _ _ _ _ => steady_group higher) items
  intro active depth left
  rw [read_nil, read_nil]
  exact .refl _

/-- The same tree is built. -/
theorem survives_ofGroup (relaxes : wide.Relaxes config) (group : Group) :
    Survives (ofGroup config group) (ofGroup wide group) := by
  rw [ofGroup_eq_readOperand, ofGroup_eq_readOperand]
  exact .map ((steady relaxes.deeper group.items).readOperand relaxes.deeper none 0) _

end Tree

theorem Group.survives_prepare (relaxes : wide.Relaxes config) (tokens : List Token) :
    Survives (prepare config tokens) (prepare wide tokens) := by
  refine .bind ?_ fun group _ => .map (Item.survives_gather relaxes.deeper _ 0) _
  rw [ofTokens_eq_nest, ofTokens_eq_nest]
  exact .map (survives_nest relaxes none 0 tokens) _

/-- **Relaxing the settings.** A text is refused because of the limit of nesting or because
its brackets do not match, or else settings that allow more give the same answer: the same
tree, places included, or the same problem, of which all that is told is made. -/
theorem parse_of_relaxed (relaxes : wide.Relaxes config) (source : String) :
    (∃ problem, parse config source = .error problem ∧
      problem.report.kind ∈ [.tooDeeplyNested, .mismatchedBrackets]) ∨
      parse wide source = parse config source := by
  have survives : Survives (parse config source) (parse wide source) := by
    rw [parse, parse, relaxes.ofSource_eq]
    refine .bind (.refl _) fun tokens _ => ?_
    exact .bind (Group.survives_prepare relaxes tokens) fun group _ =>
      Tree.survives_ofGroup relaxes group
  rcases survives with same | ⟨problem, failed, guard⟩
  · exact .inr same
  · exact .inl ⟨problem, failed, by simpa [ParseProblem.IsGuard] using guard⟩

/-- The bracket in `-(2^3!` is left open with one level and with many; `(2]` and `f(2!)` are
read only by settings that allow more. -/
theorem parse_of_relaxed_open_bracket :
    let config : Config := { maxDepth := 1 }
    let wide : Config := { maxDepth := 9, strictBrackets := false }
    let opener : Token := ⟨.bracket, "(", none, 1, none, false⟩
    wide.Relaxes config ∧ parse config "-(2^3!" = .error (.unclosedBracket opener) ∧
      parse wide "-(2^3!" = .error (.unclosedBracket opener) ∧
      (∃ problem, parse config "(2]" = .error problem ∧
        problem.report.kind = .mismatchedBrackets) ∧
      (∃ problem, parse config "f(2!)" = .error problem ∧
        problem.report.kind = .tooDeeplyNested) ∧
      (parse wide "(2]").toOption.isSome = true ∧ (parse wide "f(2!)").toOption.isSome = true := by
  intro config wide opener
  have relaxes : wide.Relaxes config := ⟨fun _ => rfl, by decide, fun _ => rfl⟩
  have failed : parse config "-(2^3!" = .error (.unclosedBracket opener) := by cbv
  have same : parse wide "-(2^3!" = parse config "-(2^3!" := by
    refine (parse_of_relaxed relaxes "-(2^3!").resolve_left ?_
    rintro ⟨problem, other, guard⟩
    obtain rfl := Except.error.inj (failed.symm.trans other)
    revert guard
    decide
  refine ⟨relaxes, failed, same.trans failed, ⟨_, by cbv, rfl⟩, ⟨_, by cbv, rfl⟩, by cbv, by cbv⟩

end Calculator
