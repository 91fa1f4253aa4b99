import Calculator.Proofs.Group.Grounding
import Calculator.Proofs.Tree.Outcome

/-!
# What building blames

A problem that is found while a tree is built names a token of the text, or an opening
bracket of it (`ParseProblem.StemsFrom`); only where the limit of nesting is passed it may
name a product that was put in, or nothing. A product that was put in is never the operator
that lacks an operand: an operand stands in front of it, and it is not the last item.
-/

namespace Calculator

/-- A token of the text, or one that was put in. -/
def Token.Known (tokens : List Token) (token : Token) : Prop :=
  token.position = -1 ∨ token.StemsFrom tokens

/-- A problem with a token of the text. For an empty pair of brackets it is the one that
opens it; where the limit of nesting is passed, a token may have been put in or be missing. -/
def ParseProblem.StemsFrom (tokens : List Token) : ParseProblem → Prop
  | unrecognized _ => False
  | unclosedBracket token | strayBracket token | mismatchedBrackets _ token
  | misplaced token _ | missingOperand token _ => token.StemsFrom tokens
  | emptyBrackets bracket position =>
    ∃ opener ∈ tokens, opener.IsOpener ∧ opener.lexeme = bracket ∧ opener.position = position
  | tooDeep token _ => ∀ known ∈ token, known.Known tokens

variable {tokens : List Token}

theorem Item.Rooted.known {token : Token} (rooted : (Item.single token).Rooted tokens) :
    token.Known tokens := by
  rcases rooted with rfl | stems
  · exact .inl rfl
  · exact .inr stems

theorem Item.Grounded.of_suffix {items rest : List Item} (grounded : Grounded tokens items)
    (later : rest <:+ items) : Grounded tokens rest := by
  obtain ⟨front, rfl⟩ := later
  refine ⟨(holdsIn_append.mp grounded.1).2.1, fun item last => grounded.2 item ?_⟩
  rw [List.getLast?_append, last]
  rfl

namespace Tree

open Item

variable {limit depth : Nat} {active : Option Token}

/-- Items that may be read on from an operand or, without one, from their first item. -/
structure Legible (tokens : List Token) (left : Option Tree) (items : List Item) : Prop where
  spaced : SpacedIn items
  grounded : Grounded tokens items
  detached : left.isSome = true → Detached items
  original : left = none → ∀ item ∈ items.head?, item.isImplied = false

theorem Legible.behind {items rest : List Item} {left : Option Tree}
    (legible : Legible tokens left items) (later : rest <:+ items) (detached : Detached rest)
    (operand : Tree) : Legible tokens (some operand) rest :=
  ⟨SpacedIn.of_suffix legible.spaced later, legible.grounded.of_suffix later, fun _ => detached,
    fun none => absurd none (Option.some_ne_none operand)⟩

/-- No product was put in behind an operator. -/
theorem Legible.operand {token : Token} {items : List Item} {left : Option Tree}
    (legible : Legible tokens left (.single token :: items)) (operator : token.kind ≠ .number) :
    Legible tokens none items := by
  refine ⟨SpacedIn.of_suffix legible.spaced (List.suffix_cons _ _),
    legible.grounded.of_suffix (List.suffix_cons _ _), (absurd · Bool.false_ne_true), ?_⟩
  intro _ next head
  refine Bool.eq_false_iff.mpr fun implied => ?_
  have ends := (holdsIn_cons.mp legible.grounded.1).2.1 next head implied
  exact operator (beq_iff_eq.mp ends)

/-- A product that was put in is not the last item. -/
theorem Legible.stemsFrom_of_last {token : Token} {left : Option Tree}
    (legible : Legible tokens left [.single token]) : token.StemsFrom tokens := by
  rcases (holdsIn_cons.mp legible.grounded.1).1.here with rfl | stems
  · have original := legible.grounded.2 _ rfl
    cases original
  · exact stems

theorem Legible.stemsFrom_of_first {token : Token} {items : List Item}
    (legible : Legible tokens none (.single token :: items)) : token.StemsFrom tokens := by
  rcases (holdsIn_cons.mp legible.grounded.1).1.here with rfl | stems
  · have original := legible.original rfl _ rfl
    cases original
  · exact stems

/-- Whatever is read from the items, a problem names a token of the text. -/
def Blamable (limit : Nat) (tokens : List Token) (items : List Item) : Prop :=
  ∀ depth active left problem, Legible tokens left items → (∀ known ∈ active, known.Known tokens) →
    read limit active depth left items = .error problem → problem.StemsFrom tokens

theorem Blamable.readOperand {items : List Item} (blamable : Blamable limit tokens items)
    (legible : Legible tokens none items) (known : ∀ known ∈ active, known.Known tokens)
    {problem : ParseProblem} (failed : readOperand limit active depth items = .error problem) :
    problem.StemsFrom tokens := by
  rw [Tree.readOperand] at failed
  split at failed
  · cases failed
    exact known
  · exact blamable depth active none problem legible known failed

/-- What is left behind an operand starts with no other, and there is no operand only where
there is nothing left to read. -/
theorem outcome_of_readOperand {items behind : List Item} {result : Option Tree}
    (spaced : SpacedIn items)
    (found : readOperand limit active depth items = .ok (result, behind)) :
    behind <:+ items ∧ Detached behind ∧ (result = none → items = []) := by
  have outcome : Outcome none items (readOperand limit active depth items) :=
    (proper items).readOperand spaced active depth
  rw [found] at outcome
  obtain ⟨later, detached, complete⟩ := outcome
  refine ⟨later, detached, fun none => by_contra fun nonempty => ?_⟩
  have some := complete (.inr nonempty)
  rw [none] at some
  cases some

/-- An operator takes its operand from the items. It lacks one only if it is the last item. -/
theorem stemsFrom_of_operator {operator : Token} {items : List Item} {problem : ParseProblem}
    (make : Tree → Tree) (legible : Legible tokens none items)
    (around : ∀ known ∈ active, known.Known tokens) (known : operator.Known tokens)
    (last : items = [] → operator.StemsFrom tokens)
    (after : ∀ behind, weights behind ≤ weights items → Blamable limit tokens behind)
    (failed : ((readOperand limit (some operator) (depth + 1) items).bind fun answer =>
        match answer.1 with
        | none => .error (.missingOperand operator .right)
        | some operand => read limit active depth (some (make operand)) answer.2) =
      .error problem) : problem.StemsFrom tokens := by
  rcases error_or_exists_of_bind failed with early | ⟨⟨result, behind⟩, found, failed⟩
  · refine (after items (Nat.le_refl _)).readOperand legible ?_ early
    rintro _ ⟨⟩
    exact known
  · obtain ⟨later, detached, complete⟩ := outcome_of_readOperand legible.spaced found
    cases result with
    | none =>
        cases failed
        exact last (complete rfl)
    | some operand =>
        exact after behind (weights_readOperand_le found) depth active _ problem
          (legible.behind later detached _) around failed

theorem stemsFrom_of_leadingOperator {token : Token} (stems : token.StemsFrom tokens) :
    (∀ problem, leadingOperator token = .error problem → problem.StemsFrom tokens) ∧
      ∀ operator, leadingOperator token = .ok operator → operator.StemsFrom tokens := by
  rw [leadingOperator]
  split
  · refine ⟨fun _ impossible => (nomatch impossible), fun operator same => ?_⟩
    exact Except.ok.inj same ▸ stems
  · split
    · rename_i minus
      refine ⟨fun _ impossible => (nomatch impossible), fun operator same => ?_⟩
      obtain ⟨origin, member, position, spelled⟩ := stems
      obtain rfl := Except.ok.inj same
      have sign := Operator.eq_minus_of_ofText minus
      refine ⟨origin, member, position, .inr ⟨rfl, ?_⟩⟩
      rcases spelled with same | ⟨renamed, -⟩
      · exact same.symm.trans sign
      · exact absurd (sign.symm.trans renamed) (by decide)
    · refine ⟨fun problem same => ?_, fun _ impossible => (nomatch impossible)⟩
      exact Except.error.inj same ▸ stems

theorem blamable_single {token : Token} {items : List Item}
    (after : ∀ behind, weights behind ≤ weights items → Blamable limit tokens behind) :
    Blamable limit tokens (.single token :: items) := by
  intro depth active left problem legible around failed
  have suffix : items <:+ .single token :: items := List.suffix_cons _ _
  obtain ⟨rooted, -, -⟩ := holdsIn_cons.mp legible.grounded.1
  rcases left with _ | left
  · by_cases number : token.kind = .number
    · rw [read_number number] at failed
      have free : Detached items := fun next head =>
        (holdsIn_cons.mp legible.spaced).2.1 next head (by simp [endsOperand, number])
      exact after items (Nat.le_refl _) depth active _ problem (legible.behind suffix free _) around
        failed
    · rw [read_leading number] at failed
      have leads := stemsFrom_of_leadingOperator legible.stemsFrom_of_first
      rcases error_or_exists_of_bind failed with early | ⟨operator, found, failed⟩
      · exact leads.1 problem early
      · have stems := leads.2 operator found
        exact stemsFrom_of_operator (.unary operator) (legible.operand number) around (.inr stems)
          (fun _ => stems) after failed
  · have starts := legible.detached rfl _ rfl
    simp only [startsOperand, Bool.or_eq_false_iff, beq_eq_false_iff_ne] at starts
    have plain : token.fixity = none := by simpa using starts.2
    cases tighter : Operator.bindsTighter (some token) active with
    | true =>
        rw [read_between starts.1 plain tighter] at failed
        have known : token.infixed.Known tokens := (holds_single.mp rooted).known
        refine stemsFrom_of_operator (.binary token.infixed left) (legible.operand starts.1) around
          known ?_ after failed
        rintro rfl
        exact legible.stemsFrom_of_last
    | false =>
        rw [read_return starts.1 plain tighter] at failed
        cases failed

theorem blamable_group {bracket : Option String} {position : Int} {inner items : List Item}
    (content : Blamable limit tokens inner) (after : Blamable limit tokens items) :
    Blamable limit tokens (.group bracket position inner :: items) := by
  intro depth active left problem legible around failed
  obtain ⟨rooted, inside⟩ := holds_group.mp (holdsIn_cons.mp legible.grounded.1).1
  obtain ⟨apart, seam, -⟩ := holdsIn_cons.mp legible.spaced
  have spaced := (holds_group.mp apart).2
  have flanked : Flanked inner := by
    cases bracket with
    | none => exact rooted.2
    | some bracket => exact rooted.2
  have within : Legible tokens none inner :=
    ⟨spaced, ⟨inside, flanked.2⟩, (absurd · Bool.false_ne_true), fun _ => flanked.1⟩
  rcases left with _ | left
  · rw [read_group] at failed
    rcases error_or_exists_of_bind failed with early | ⟨⟨result, behind⟩, found, failed⟩
    · exact content.readOperand within (fun _ absent => absurd absent (Option.not_mem_none _)) early
    · rcases result with _ | result
      · obtain rfl := Except.error.inj failed
        cases bracket with
        | none => exact absurd ((outcome_of_readOperand spaced found).2.2 rfl) rooted.1
        | some bracket =>
            obtain ⟨opener, member, opens, rfl, rfl⟩ := rooted.1
            refine ⟨opener, member, opens, (if_neg fun none => ?_).symm, rfl⟩
            have unnamed : opener.lexeme = "" := none
            have opens := opens.2
            rw [Token.opensGroup, unnamed] at opens
            exact absurd opens (by decide)
      · have free : Detached items := fun next head => seam next head rfl
        exact after depth active _ problem (legible.behind (List.suffix_cons _ _) free _) around
          failed
  · have starts := legible.detached rfl _ rfl
    cases starts

theorem blamable (items : List Item) : Blamable limit tokens items := by
  refine weights_induction ?_ (fun _ _ => blamable_single) (fun _ _ _ _ => blamable_group) items
  intro depth active left problem _ _ failed
  rw [read_nil] at failed
  cases failed

/-- A problem that is found while a tree is built names a token of the text. -/
theorem stemsFrom_of_ofGroup {config : Config} {group : Group} {problem : ParseProblem}
    (spaced : SpacedIn group.items) (grounded : Grounded tokens group.items)
    (flanked : Flanked group.items) (failed : ofGroup config group = .error problem) :
    problem.StemsFrom tokens := by
  rw [ofGroup_eq_readOperand] at failed
  refine (blamable group.items).readOperand ⟨spaced, grounded, (absurd · Bool.false_ne_true), ?_⟩
    (fun _ absent => absurd absent (Option.not_mem_none _)) (error_of_map failed)
  exact fun _ => flanked.1

end Tree

end Calculator
