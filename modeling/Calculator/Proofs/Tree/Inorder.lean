import Calculator.Proofs.Tree.Reading

/-!
# Trees hold all tokens in order

A tree is read in order if an operator over one operand comes before it and an operator over
two operands between them (`Tree.inorder`). What is built from any items at all, also from
such as no stage before would hand over, is read in order as the tokens of the items. Signs
before an operand have been renamed and operators between two operands tagged, nothing else
has changed (`Tree.inorder_of_ofGroup`).
-/

namespace Calculator

mutual

/-- The tokens of an item, brackets left out. -/
def Item.flatten : Item → List Token
  | .single token => [token]
  | .group _ _ items => Item.flattenIn items

def Item.flattenIn : List Item → List Token
  | [] => []
  | item :: rest => item.flatten ++ Item.flattenIn rest

end

theorem Item.flattenIn_append (first second : List Item) :
    flattenIn (first ++ second) = flattenIn first ++ flattenIn second := by
  induction first with
  | nil => rfl
  | cons item rest ih => rw [List.cons_append, flattenIn, flattenIn, ih, List.append_assoc]

/-- Where a token of a tree stands: alone, before its operand or between two. -/
inductive Place
  | alone
  | before
  | between
deriving DecidableEq

/-- The tokens of a tree in order, each with its place. -/
def Tree.inorder : Tree → List (Place × Token)
  | leaf token => [(.alone, token)]
  | unary operator operand => (.before, operator) :: operand.inorder
  | binary operator left right => left.inorder ++ (.between, operator) :: right.inorder

/-- What may become of a token in a tree: numbers stand alone, a bare sign before an operand
is renamed, and a bare operator between two operands is tagged. -/
inductive Token.Taken (token : Token) : Place × Token → Prop
  | alone (number : token.kind = .number) : Taken token (.alone, token)
  | before (other : token.kind ≠ .number) (placed : token.fixity.isSome = true) :
      Taken token (.before, token)
  | sign (other : token.kind ≠ .number) (plain : token.fixity = none) (minus : token.lexeme = "-") :
      Taken token (.before, { token with lexeme := "negate", fixity := some .prefixed })
  | between (other : token.kind ≠ .number) (plain : token.fixity = none) :
      Taken token (.between, { token with fixity := some .infixed })

namespace Tree

open Item

variable {limit depth : Nat} {active : Option Token}

/-- The tokens of the operand that has been read, if there is one. -/
def inorderOf (operand : Option Tree) : List (Place × Token) := operand.elim [] inorder

/-- From the items in front of what is left, the tokens go into the tree behind those of the
operand on the left. -/
structure Keeps (left : Option Tree) (items : List Item) (result : Option Tree)
    (rest : List Item) : Prop where
  added : ∃ consumed entries, items = consumed ++ rest ∧
    List.Forall₂ Token.Taken (flattenIn consumed) entries ∧
    inorderOf result = inorderOf left ++ entries
  absent : result = none → left = none ∧ items = []

/-- Reading the items keeps all tokens and, without an active operator, leaves nothing. -/
def Keeping (limit : Nat) (items : List Item) : Prop :=
  ∀ depth active left result rest, read limit active depth left items = .ok (result, rest) →
    Keeps left items result rest ∧ (active = none → rest = [])

/-- One more item in front, whose tokens have gone into the operand. -/
theorem Keeps.cons {left first result : Option Tree} {item : Item} {items rest : List Item}
    {entries : List (Place × Token)} (later : Keeps first items result rest) (front : List Item)
    (some : first.isSome = true)
    (taken : List.Forall₂ Token.Taken (flattenIn (item :: front)) entries)
    (grown : inorderOf first = inorderOf left ++ entries) :
    Keeps left (item :: (front ++ items)) result rest := by
  obtain ⟨⟨consumed, further, rfl, takenLater, order⟩, absent⟩ := later
  refine ⟨⟨item :: (front ++ consumed), entries ++ further, by simp, ?_, ?_⟩, fun none => ?_⟩
  · rw [← List.cons_append, flattenIn_append]
    exact List.rel_append taken takenLater
  · rw [order, grown, List.append_assoc]
  · rw [(absent none).1] at some
    cases some

theorem keeping_nil : Keeping limit [] := by
  intro depth active left result rest answer
  rw [read_nil] at answer
  cases answer
  exact ⟨⟨⟨[], [], rfl, .nil, (List.append_nil _).symm⟩, fun none => ⟨none, rfl⟩⟩, fun _ => rfl⟩

/-- An operator takes an operand from the items and reads on with what it makes of it. -/
theorem keeps_operator {token operator : Token} {items rest : List Item}
    {left result : Option Tree} {place : Place} (make : Tree → Tree)
    (taken : token.Taken (place, operator))
    (made : ∀ operand,
      inorder (make operand) = inorderOf left ++ (place, operator) :: operand.inorder)
    (after : ∀ behind, weights behind ≤ weights items → Keeping limit behind)
    (answer : ((readOperand limit (some operator) (depth + 1) items).bind fun answer =>
        match answer.1 with
        | none => .error (.missingOperand operator .right)
        | some operand => read limit active depth (some (make operand)) answer.2) =
      .ok (result, rest)) :
    Keeps left (.single token :: items) result rest ∧ (active = none → rest = []) := by
  obtain ⟨⟨_ | operand, behind⟩, found, onward⟩ := exists_of_bind answer
  · cases onward
  have lighter := weights_readOperand_le found
  obtain ⟨⟨⟨consumed, entries, rfl, inside, order⟩, -⟩, -⟩ :=
    after items (Nat.le_refl _) _ _ _ _ _ (read_of_readOperand found)
  obtain ⟨later, complete⟩ := after behind lighter _ _ _ _ _ onward
  have grown :
      inorderOf (some (make operand)) = inorderOf left ++ (place, operator) :: entries := by
    rw [inorderOf, Option.elim_some, made]
    exact congrArg _ (congrArg _ order)
  exact ⟨later.cons _ rfl (.cons taken inside) grown, complete⟩

theorem taken_of_leadingOperator {token operator : Token} (other : token.kind ≠ .number)
    (leads : leadingOperator token = .ok operator) : token.Taken (.before, operator) := by
  unfold leadingOperator at leads
  split at leads
  · rename_i placed
    cases leads
    exact .before other (by rw [placed]; rfl)
  · rename_i plain
    split at leads
    · rename_i minus
      cases leads
      exact .sign other plain (Operator.eq_minus_of_ofText minus)
    · cases leads

theorem keeping_single {token : Token} {items : List Item}
    (after : ∀ behind, weights behind ≤ weights items → Keeping limit behind) :
    Keeping limit (.single token :: items) := by
  intro depth active left result rest answer
  by_cases number : token.kind = .number
  · cases left with
    | none =>
        rw [read_number number] at answer
        obtain ⟨later, complete⟩ := after items (Nat.le_refl _) _ _ _ _ _ answer
        have taken : List.Forall₂ Token.Taken [token] [(.alone, token)] :=
          .cons (.alone number) .nil
        exact ⟨later.cons [] rfl taken rfl, complete⟩
    | some left =>
        rw [read_adjacent number] at answer
        cases answer
  · cases left with
    | none =>
        rw [read_leading number] at answer
        obtain ⟨operator, leads, answer⟩ := exists_of_bind answer
        exact keeps_operator (.unary operator) (taken_of_leadingOperator number leads)
          (fun _ => rfl) after answer
    | some left =>
        by_cases function : token.fixity.isSome = true
        · rw [read_function number function] at answer
          cases answer
        have plain : token.fixity = none := by simpa using function
        cases tighter : Operator.bindsTighter (some token) active with
        | true =>
            rw [read_between number plain tighter] at answer
            exact keeps_operator (.binary token.infixed left) (.between number plain)
              (fun _ => rfl) after answer
        | false =>
            rw [read_return number plain tighter] at answer
            cases answer
            refine ⟨⟨⟨[], [], rfl, .nil, (List.append_nil _).symm⟩, fun none => nomatch none⟩, ?_⟩
            -- Without an active operator every operator binds, and none is left.
            rintro rfl
            cases tighter

/-- A group is read on its own, to its end. -/
theorem keeping_group {bracket : Option String} {position : Int} {inner items : List Item}
    (content : Keeping limit inner) (after : Keeping limit items) :
    Keeping limit (.group bracket position inner :: items) := by
  intro depth active left result rest answer
  rw [read_group] at answer
  obtain ⟨⟨_ | tree, behind⟩, found, answer⟩ := exists_of_bind answer
  · cases answer
  cases left with
  | some left => cases answer
  | none =>
      obtain ⟨⟨⟨consumed, entries, split, inside, order⟩, -⟩, complete⟩ :=
        content _ _ _ _ _ (read_of_readOperand found)
      obtain ⟨later, completeAll⟩ := after _ _ _ _ _ answer
      rw [complete rfl, List.append_nil] at split
      subst split
      have taken :
          List.Forall₂ Token.Taken (flattenIn [.group bracket position inner]) entries := by
        rw [flattenIn, flatten, flattenIn, List.append_nil]
        exact inside
      exact ⟨later.cons [] rfl taken order, completeAll⟩

theorem keeping (items : List Item) : Keeping limit items :=
  weights_induction keeping_nil (fun _ _ => keeping_single) (fun _ _ _ _ => keeping_group) items

/-- **Nothing is lost.** If a group is built, then to no tree exactly if it is empty, and the
tokens of a tree are those of the group, in order. -/
theorem inorder_of_ofGroup {config : Config} {group : Group} {result : Option Tree}
    (built : ofGroup config group = .ok result) :
    (result = none ↔ group.items = []) ∧
      ∀ tree ∈ result, List.Forall₂ Token.Taken (flattenIn group.items) tree.inorder := by
  rw [ofGroup_eq_readOperand] at built
  obtain ⟨⟨answer, rest⟩, found, rfl⟩ := exists_of_map built
  have reading := read_of_readOperand found
  obtain ⟨⟨⟨consumed, entries, split, taken, order⟩, absent⟩, complete⟩ :=
    keeping group.items _ _ _ _ _ reading
  rw [complete rfl, List.append_nil] at split
  subst split
  refine ⟨⟨fun none => (absent none).2, fun empty => ?_⟩, ?_⟩
  · rw [empty, read_nil] at reading
    cases reading
    rfl
  · rintro tree same
    obtain rfl : answer = some tree := same
    have whole : tree.inorder = entries := order
    rw [whole]
    exact taken

/-- A suffix that has not moved is taken as an operator between operands; a sign is renamed,
and a function keeps the tag that it came with. -/
theorem inorder_of_ofGroup_unmoved_suffix :
    let number (n : Nat) (position : Nat) : Token :=
      ⟨.number, toString n, some (.number (.int n)), position, none, false⟩
    let minus : Token := ⟨.operator, "-", none, 1, none, false⟩
    let mark : Token := ⟨.operator, "!", none, 4, none, false⟩
    let function : Token := ⟨.operator, "f", none, 5, some .suffixed, false⟩
    let group : Group := ⟨[.group (some "(") 0 [.single minus, .single (number 3 2)],
      .single mark, .group none 5 [.single function, .single (number 4 6)]], none, -1⟩
    let tree : Tree := .binary { mark with fixity := some .infixed }
      (.unary { minus with lexeme := "negate", fixity := some .prefixed } (.leaf (number 3 2)))
      (.unary function (.leaf (number 4 6)))
    ofGroup .standard group = .ok (some tree) ∧ (some tree = none ↔ group.items = []) ∧
      List.Forall₂ Token.Taken [minus, number 3 2, mark, function, number 4 6] tree.inorder := by
  intro number minus mark function group tree
  have built : ofGroup .standard group = .ok (some tree) := by cbv
  obtain ⟨empty, taken⟩ := inorder_of_ofGroup built
  exact ⟨built, empty, taken tree rfl⟩

end Tree

end Calculator
