import Calculator.Proofs.Group.Arrangement
import Calculator.Proofs.Tree.Completeness

/-!
# The expression behind a tree

Whatever is read from arranged items is the tree of a conforming expression whose
relocated items are exactly those that were read (`Tree.exists_expression_of_ofGroup`).
The induction is on the weight of the items; it carries the expression on the left
along, which has to yield to the active operator and to hold off what follows.
-/

namespace Calculator

namespace Expression

open Item

/-- Among tight operators the right edge is tight. -/
theorem isTight_of_tightIn {e : Expression} (fitted : e.Fitted) (tight : TightIn e.relocated) :
    ∀ token ∈ e.rightEdge, token.isTight = true := by
  induction e with
  | prefixed operator operand _ =>
      have front : operator.kind = .operator → operator.isTight = true :=
        tight operator List.mem_cons_self
      rcases fitted.1 with role | role
      · rw [Token.isTight_prefixed role.2.1] at front
        cases front role.1
      · have weak : operator.isTight = false := by
          rw [Token.isTight, Token.precedence, role.2.1, role.2.2]
          decide
        rw [weak] at front
        cases front role.1
  | infixed left operator right _ ih =>
      have parts := among_append.mp tight
      have inner := among_cons.mp parts.2
      intro token member
      rcases List.mem_cons.mp member with rfl | inside
      · rw [Token.isTight_infixed fitted.1.2.1]
        exact inner.1 operator rfl fitted.1.1
      · exact ih fitted.2.2 inner.2 token inside
  | leaf | bracketed | suffixed => intro token member; cases member

/-- An expression that yields outside of its suffixes yields altogether, if the
operator before it is weaker than a suffix in front. -/
theorem yieldsTo_leftEdge {e : Expression} (conforming : e.Conforming) (fitted : e.Fitted)
    {active : Token} (yields : YieldsTo active e.spine)
    (weak : ∀ item ∈ e.relocated.head?, item.isMoved = true → active.precedence < 3) :
    YieldsTo active e.leftEdge := by
  induction e with
  | infixed left operator right ih _ =>
      have front : ∀ item ∈ left.relocated.head?, item.isMoved = true → active.precedence < 3 := by
        intro item head
        refine weak item ?_
        rw [relocated, List.head?_append, head]
        rfl
      intro token member
      rcases List.mem_cons.mp member with rfl | inside
      · exact yields _ List.mem_cons_self
      · exact ih conforming.2.2.1 fitted.2.1
          (fun other inner => yields other (List.mem_cons_of_mem _ inner)) front token inside
  | suffixed operand operator _ =>
      have below := weak _ rfl rfl
      have strong := three_le_of_mem_leftEdge conforming.2 fitted.2
        (isTight_of_holdsOff fitted.2 fitted.1 conforming.1)
      intro token member
      apply Operator.bindsTighter_of_lt
      rcases List.mem_cons.mp member with rfl | inside
      · rw [Token.precedence_of_isSuffixed operator.suffixed fitted.1.2.2 rfl]
        exact below
      · exact Int.lt_of_lt_of_le below (strong token inside)
  | leaf | bracketed | prefixed => intro token member; cases member

end Expression

namespace Tree

open Item Expression

variable {limit depth : Nat} {active : Option Token}

/-- What is left when an operand of the active operator has been read: nothing, or
an operator that does not bind tighter. -/
def Returned (active : Option Token) (rest : List Item) : Prop :=
  match active with
  | none => rest = []
  | some operator => Delimits [operator] rest

/-- An expression that may stand between the active operator and the items that
follow. -/
structure Fits (active : Option Token) (e : Expression) (rest : List Item) : Prop where
  fitted : e.Fitted
  conforming : e.Conforming
  yields : ∀ operator ∈ active, YieldsTo operator e.spine
  guarded : e.rightEdge = [] ∨ Delimits e.rightEdge rest

/-- Items can be arranged with arrangeable tokens only. -/
abbrev Arranged (items : List Item) : Prop := Item.Arranged Token.IsArrangeable items

theorem Arranged.of_append {first second : List Item} (arranged : Arranged (first ++ second)) :
    Arranged second :=
  ⟨(among_append.mp arranged.1).2, (holdsIn_append.mp arranged.2).2.1⟩

theorem Arranged.tail {item : Item} {rest : List Item} (arranged : Arranged (item :: rest)) :
    Arranged rest :=
  @Arranged.of_append [item] rest arranged

/-- An operator with its operands behind it is held off by what it returned to. -/
theorem delimits_cons {operator : Token} {edge : List Token} {rest : List Item}
    (returned : Delimits [operator] rest) (guarded : edge = [] ∨ Delimits edge rest) :
    Delimits (operator :: edge) rest := by
  rcases returned with empty | ⟨token, behind, rfl, role, holds⟩
  · exact .inl empty
  · refine .inr ⟨token, behind, rfl, role, fun other member => ?_⟩
    rcases List.mem_cons.mp member with rfl | inside
    · exact holds _ List.mem_cons_self
    · rcases guarded with rfl | delimits
      · cases inside
      · rcases delimits with impossible | ⟨same, others, split, -, holdsOff⟩
        · cases impossible
        · cases split
          exact holdsOff other inside

/-- A token between operands that is no number and has no position yet. -/
theorem isInfix_of_isArrangeable {token : Token} (arrangeable : token.IsArrangeable)
    (notNumber : token.kind ≠ .number) (plain : token.fixity = none) : token.IsInfix := by
  rcases arrangeable with number | function | infix'
  · exact absurd number notNumber
  · exact absurd (plain.symm.trans function.2.1) (by simp)
  · exact infix'

/-- An operand that starts with an operator starts with a function or a sign. -/
theorem leads_of_leadingOperator {token operator : Token} (arrangeable : token.IsArrangeable)
    (notNumber : token.kind ≠ .number) (leads : leadingOperator token = .ok operator) :
    (token.IsFunction ∨ token.IsSign) ∧ operator = token.leading := by
  have role : token.IsFunction ∨ token.IsSign := by
    rcases arrangeable with number | function | infix'
    · exact absurd number notNumber
    · exact .inl function
    · rw [leadingOperator, infix'.2.1] at leads
      simp only at leads
      split at leads
      · rename_i minus
        exact .inr ⟨infix'.1, infix'.2.1, Operator.eq_minus_of_ofText minus⟩
      · cases leads
  refine ⟨role, ?_⟩
  rw [leadingOperator_eq role] at leads
  exact (Except.ok.inj leads).symm

/-- An expression that accounts for a tree and for the items it was read from, up
to those that are left. -/
structure Covers (active : Option Token) (e : Expression) (result : Tree)
    (items rest : List Item) : Prop where
  tree : e.tree = result
  items : e.relocated ++ rest = items
  fits : Fits active e rest
  returned : Returned active rest

/-- An expression holds off the operator behind it. -/
theorem Fits.holdsOff {token : Token} {left : Expression} {items : List Item}
    (fits : Fits active left (.single token :: items)) :
    HoldsOff token.infixed left.rightEdge := by
  rcases fits.guarded with free | empty | ⟨same, behind, split, -, holds⟩
  · simp [free, HoldsOff]
  · cases empty
  · cases split
    exact holds

/-- An operator that does not bind tighter gives control back. -/
theorem returned_of_looser {token : Token} (role : token.IsInfix) {items : List Item}
    (looser : Operator.bindsTighter (some token) active = false) :
    Returned active (.single token :: items) := by
  cases active with
  | none => cases looser
  | some operator =>
      refine .inr ⟨token, items, rfl, role, fun other member => ?_⟩
      obtain rfl := List.mem_singleton.mp member
      rw [Operator.bindsTighter_infixed role.2.1]
      exact looser

/-- An operator that binds tighter joins the expressions on its sides. -/
theorem Fits.join {token : Token} {left right : Expression} {items behind : List Item}
    (fits : Fits active left (.single token :: items)) (role : token.IsInfix)
    (tighter : Operator.bindsTighter (some token) active = true)
    (fitsRight : Fits (some token.infixed) right behind)
    (returned : Returned (some token.infixed) behind)
    (weak : ∀ item ∈ right.relocated.head?, item.isMoved = true → token.infixed.precedence < 3) :
    Fits active (left.infixed token right) behind := by
  have yields : YieldsTo token.infixed right.leftEdge :=
    yieldsTo_leftEdge fitsRight.conforming fitsRight.fitted (fitsRight.yields _ rfl) weak
  refine ⟨⟨role, fits.fitted, fitsRight.fitted⟩,
    ⟨fits.holdsOff, yields, fits.conforming, fitsRight.conforming⟩, ?_,
    .inr (delimits_cons returned fitsRight.guarded)⟩
  intro operator same other member
  rcases List.mem_cons.mp member with rfl | inside
  · rw [Operator.bindsTighter_infixed role.2.1, ← same]
    exact tighter
  · exact fits.yields operator same other inside

/-- A tight operator does not stand before a suffix that has moved. -/
theorem Arranged.precedence_lt {token : Token} {items : List Item} (role : token.IsInfix)
    (arranged : Arranged (.single token :: items)) :
    ∀ item ∈ items.head?, item.isMoved = true → token.infixed.precedence < 3 := by
  intro item head moved
  have loose : (token.kind == .operator && token.isTight) = false :=
    (holdsIn_cons.mp arranged.2).2.1 item head moved
  rw [role.1, beq_self_eq_true, Bool.true_and, ← Token.isTight_infixed role.2.1] at loose
  exact Token.precedence_lt_of_not_isTight loose (by simp)

/-- Every tree read from the items is covered by an expression. -/
def Sound (limit : Nat) (items : List Item) : Prop :=
  ∀ depth active rest result, Arranged items →
    read limit active depth none items = .ok (some result, rest) →
      ∃ e, Covers active e result items rest

/-- Every tree read on from an expression is covered by a larger one. -/
def SoundAfter (limit : Nat) (items : List Item) : Prop :=
  ∀ depth active rest result left, Arranged items → Fits active left items →
    read limit active depth (some left.tree) items = .ok (some result, rest) →
      ∃ e, Covers active e result (left.relocated ++ items) rest

theorem soundAfter_nil : SoundAfter limit [] := by
  intro depth active rest result left _ fits answer
  rw [read_nil] at answer
  cases answer
  refine ⟨left, rfl, rfl, fits, ?_⟩
  cases active with
  | none => rfl
  | some operator => exact .inl rfl

theorem soundAfter_group (bracket : Option String) (position : Int) (inner items : List Item) :
    SoundAfter limit (.group bracket position inner :: items) := by
  intro depth active rest result left _ _ answer
  rw [read_group] at answer
  obtain ⟨⟨content, behind⟩, -, answer⟩ := exists_of_bind answer
  cases content <;> cases answer

/-- After an operand comes an operator, which takes the next operand if it binds
tighter than the active one. -/
theorem soundAfter_single {token : Token} {items : List Item} (operand : Sound limit items)
    (after : ∀ behind, weights behind ≤ weights items → SoundAfter limit behind) :
    SoundAfter limit (.single token :: items) := by
  intro depth active rest result left arranged fits answer
  by_cases number : token.kind = .number
  · rw [read_adjacent number] at answer
    cases answer
  by_cases function : token.fixity.isSome = true
  · rw [read_function number function] at answer
    cases answer
  have plain : token.fixity = none := by simpa using function
  have role := isInfix_of_isArrangeable (arranged.1 token List.mem_cons_self) number plain
  cases tighter : Operator.bindsTighter (some token) active with
  | false =>
      rw [read_return number plain tighter] at answer
      cases answer
      exact ⟨left, rfl, rfl, fits, returned_of_looser role tighter⟩
  | true =>
      rw [read_between number plain tighter] at answer
      obtain ⟨⟨_ | tree, behind⟩, found, answer⟩ := exists_of_bind answer
      · cases answer
      obtain ⟨right, rfl, covered, fitsRight, returned⟩ :=
        operand _ _ _ _ arranged.tail (read_of_readOperand found)
      have larger : Fits active (left.infixed token right) behind := by
        apply fits.join role tighter fitsRight returned
        intro item head moved
        apply arranged.precedence_lt role item ?_ moved
        rw [← covered, List.head?_append, head]
        rfl
      have lighter := weights_readOperand_le found
      have remaining : Arranged behind := (covered ▸ arranged.tail : Arranged _).of_append
      obtain ⟨e, tree, split, fitsWhole, returnedWhole⟩ :=
        after behind lighter depth active rest result (left.infixed token right) remaining larger
          answer
      refine ⟨e, tree, ?_, fitsWhole, returnedWhole⟩
      rw [split, relocated, List.append_assoc, List.cons_append, covered]

theorem sound_nil : Sound limit [] := by
  intro depth active rest result _ answer
  rw [read_nil] at answer
  cases answer

theorem sound_number {token : Token} (number : token.kind = .number) {items : List Item}
    (after : SoundAfter limit items) : Sound limit (.single token :: items) := by
  intro depth active rest result arranged answer
  rw [read_number number] at answer
  have fits : Fits active (.leaf token) items :=
    ⟨number, trivial, (fun _ _ _ member => absurd member List.not_mem_nil), .inl rfl⟩
  exact after depth active rest result (.leaf token) arranged.tail fits answer

/-- A function or a sign takes the operand behind it. -/
theorem sound_leading {token : Token} (notNumber : token.kind ≠ .number) {items : List Item}
    (operand : Sound limit items)
    (after : ∀ behind, weights behind ≤ weights items → SoundAfter limit behind) :
    Sound limit (.single token :: items) := by
  intro depth active rest result arranged answer
  rw [read_leading notNumber] at answer
  obtain ⟨operator, leads, answer⟩ := exists_of_bind answer
  obtain ⟨role, rfl⟩ :=
    leads_of_leadingOperator (arranged.1 token List.mem_cons_self) notNumber leads
  obtain ⟨⟨_ | tree, behind⟩, found, answer⟩ := exists_of_bind answer
  · cases answer
  have low : token.leading.precedence < 3 := by
    rw [Token.precedence, leading_fixity role, Operator.precedence_prefixed]
    decide
  obtain ⟨inner, rfl, covered, fits, returned⟩ :=
    operand _ _ _ _ arranged.tail (read_of_readOperand found)
  have yields : YieldsTo token.leading inner.leftEdge :=
    yieldsTo_leftEdge fits.conforming fits.fitted (fits.yields _ rfl) fun _ _ _ => low
  have larger : Fits active (.prefixed token inner) behind :=
    ⟨⟨role, fits.fitted⟩, ⟨yields, fits.conforming⟩,
      (fun _ _ _ member => absurd member List.not_mem_nil),
      .inr (delimits_cons returned fits.guarded)⟩
  have remaining : Arranged behind := (covered ▸ arranged.tail : Arranged _).of_append
  obtain ⟨e, tree, split, fitsWhole, returnedWhole⟩ :=
    after behind (weights_readOperand_le found) depth active rest result (.prefixed token inner)
      remaining larger answer
  refine ⟨e, tree, ?_, fitsWhole, returnedWhole⟩
  rw [split, relocated, List.cons_append, covered]

/-- A bracketed operand is an expression of its own. -/
theorem sound_bracketed {bracket : String} {position : Int} {inner items : List Item}
    (content : Sound limit inner) (after : SoundAfter limit items) :
    Sound limit (.group (some bracket) position inner :: items) := by
  intro depth active rest result arranged answer
  rw [read_group] at answer
  obtain ⟨⟨_ | tree, behind⟩, found, answer⟩ := exists_of_bind answer
  · cases answer
  have inside : Arranged inner := holds_group.mp (holdsIn_cons.mp arranged.2).1
  obtain ⟨e, rfl, covered, fits, returned⟩ :=
    content _ _ _ _ inside (read_of_readOperand found)
  have consumed : behind = [] := returned
  rw [consumed, List.append_nil] at covered
  let opener : Token := { kind := .bracket, lexeme := bracket, position := position }
  have larger : Fits active (.bracketed opener e opener) items :=
    ⟨fits.fitted, fits.conforming, (fun _ _ _ member => absurd member List.not_mem_nil), .inl rfl⟩
  obtain ⟨whole, tree, split, fitsWhole, returnedWhole⟩ :=
    after depth active rest result (.bracketed opener e opener) arranged.tail larger answer
  refine ⟨whole, tree, ?_, fitsWhole, returnedWhole⟩
  rw [split, relocated, covered]
  rfl

/-- In an operand of tight operators a suffix finds no end. -/
theorem eq_nil_of_returned {suffix : Token} (moved : suffix.IsMovedSuffix) {rest : List Item}
    (tight : TightIn rest) (returned : Returned (some suffix) rest) : rest = [] := by
  rcases returned with empty | ⟨token, behind, rfl, role, holds⟩
  · exact empty
  · have looser := holds suffix List.mem_cons_self
    rw [Operator.bindsTighter_suffixed _ suffix moved.2.1 moved.2.2,
      Token.isTight_infixed role.2.1, tight token List.mem_cons_self role.1] at looser
    cases looser

/-- A moved suffix with an operand of tight operators holds these off. -/
theorem holdsOff_of_tightIn {suffix : Token} (moved : suffix.IsMovedSuffix) {e : Expression}
    (fitted : e.Fitted) (tight : TightIn e.relocated) : HoldsOff suffix e.rightEdge := by
  intro token member
  have strong := Token.isTight_iff.mp (isTight_of_tightIn fitted tight token member)
  rw [Operator.bindsTighter_of_suffixed suffix moved.2.1 moved.2.2]
  exact decide_eq_false (by omega)

/-- The group of a moved suffix is read as the suffix over an expression. -/
theorem exists_expression_of_moved {suffix : Token} {operand rest : List Item} {result : Tree}
    (content : Sound limit operand) (moved : suffix.IsMovedSuffix) (arranged : Arranged operand)
    (tight : TightIn operand)
    (answer : read limit none depth none (.single suffix :: operand) = .ok (some result, rest)) :
    ∃ e : Expression, e.Fitted ∧ e.Conforming ∧ e.relocated = operand ∧
      HoldsOff suffix e.rightEdge ∧ .unary suffix e.tree = result := by
  have notNumber : suffix.kind ≠ .number := by
    rw [moved.1]
    decide
  have leads : leadingOperator suffix = .ok suffix := by
    rw [leadingOperator, moved.2.2]
  rw [read_leading notNumber] at answer
  obtain ⟨operator, same, answer⟩ := exists_of_bind answer
  obtain rfl : suffix = operator := Except.ok.inj (leads.symm.trans same)
  obtain ⟨⟨_ | argument, remaining⟩, inner, answer⟩ := exists_of_bind answer
  · cases answer
  obtain ⟨e, rfl, covered, fits, returned⟩ :=
    content _ _ _ _ arranged (read_of_readOperand inner)
  have held : TightIn remaining := by
    rw [← covered] at tight
    exact (among_append.mp tight).2
  obtain rfl := eq_nil_of_returned moved held returned
  rw [List.append_nil] at covered
  simp only [read_nil] at answer
  cases answer
  exact ⟨e, fits.fitted, fits.conforming, covered,
    holdsOff_of_tightIn moved fits.fitted (covered ▸ tight), rfl⟩

/-- A moved suffix takes everything that is in its group. -/
theorem sound_moved {position : Int} {inner items : List Item}
    (content : ∀ suffix operand, inner = .single suffix :: operand → Sound limit operand)
    (after : SoundAfter limit items) : Sound limit (.group none position inner :: items) := by
  intro depth active rest result arranged answer
  obtain ⟨grouped, inside⟩ := holds_group.mp (holdsIn_cons.mp arranged.2).1
  obtain ⟨suffix, operand, rfl, moved, rfl, among, tight⟩ := grouped
  rw [read_group] at answer
  obtain ⟨⟨_ | tree, behind⟩, found, answer⟩ := exists_of_bind answer
  · cases answer
  obtain ⟨e, fitted, conforming, rfl, holds, rfl⟩ :=
    exists_expression_of_moved (content suffix operand rfl) moved
      ⟨among, (holdsIn_cons.mp inside).2.2⟩ tight (read_of_readOperand found)
  have back : suffix.plain.suffixed = suffix := Token.suffixed_plain moved.2.2
  have larger : Fits active (.suffixed e suffix.plain) items := by
    refine ⟨⟨⟨moved.1, rfl, moved.2.1⟩, fitted⟩, ⟨?_, conforming⟩,
      (fun _ _ _ member => absurd member List.not_mem_nil), .inl rfl⟩
    rwa [back]
  have same : Expression.tree (.suffixed e suffix.plain) = .unary suffix e.tree := by
    rw [Expression.tree, back]
  rw [← same] at answer
  obtain ⟨whole, tree, split, fitsWhole, returnedWhole⟩ :=
    after depth active rest result (.suffixed e suffix.plain) arranged.tail larger answer
  refine ⟨whole, tree, ?_, fitsWhole, returnedWhole⟩
  rw [split, relocated, back]
  rfl

/-- Reading arranged items gives the tree of an expression, at every weight. -/
theorem sound_and_soundAfter (items : List Item) : Sound limit items ∧ SoundAfter limit items := by
  induction count : weights items using Nat.strongRecOn generalizing items with
  | _ count ih =>
    subst count
    rcases items with _ | ⟨token | ⟨bracket, position, inner⟩, items⟩
    case nil => exact ⟨sound_nil, soundAfter_nil⟩
    case cons.single =>
        have later : ∀ behind, weights behind ≤ weights items →
            Sound limit behind ∧ SoundAfter limit behind := by
          intro behind lighter
          refine ih (weights behind) ?_ behind rfl
          simp only [weights, weight]
          omega
        have operand := (later items (Nat.le_refl _)).1
        have after := fun behind lighter => (later behind lighter).2
        refine ⟨?_, soundAfter_single operand after⟩
        by_cases number : token.kind = .number
        · exact sound_number number (after items (Nat.le_refl _))
        · exact sound_leading number operand after
    case cons.group =>
        have lighter : ∀ others, weights others ≤ weights inner ∨ weights others ≤ weights items →
            weights others < weights (.group bracket position inner :: items) := by
          intro others smaller
          simp only [weights, weight]
          omega
        have after := (ih _ (lighter items (.inr (Nat.le_refl _))) items rfl).2
        refine ⟨?_, soundAfter_group bracket position inner items⟩
        cases bracket with
        | some bracket =>
            exact sound_bracketed (ih _ (lighter inner (.inl (Nat.le_refl _))) inner rfl).1 after
        | none =>
            refine sound_moved (fun suffix operand front => ?_) after
            refine (ih _ (lighter operand (.inl ?_)) operand rfl).1
            rw [front, weights]
            omega

/-- A tree that is read from arranged items is the tree of a conforming expression
with these items. -/
theorem exists_expression_of_ofGroup {config : Config} {group : Group} {result : Tree}
    (arranged : Arranged group.items) (built : ofGroup config group = .ok (some result)) :
    ∃ e : Expression, e.Fitted ∧ e.Conforming ∧ e.relocated = group.items ∧ e.tree = result := by
  rw [ofGroup_eq_readOperand] at built
  obtain ⟨⟨answer, behind⟩, found, rfl⟩ := exists_of_map built
  obtain ⟨e, tree, covered, fits, returned⟩ :=
    (sound_and_soundAfter group.items).1 _ _ _ _ arranged (read_of_readOperand found)
  obtain rfl : behind = [] := returned
  rw [List.append_nil] at covered
  exact ⟨e, fits.fitted, fits.conforming, covered, tree⟩

end Tree

end Calculator
