import Calculator.Group.Product
import Calculator.Proofs.Group.Level
import Calculator.Proofs.Group.Nesting

/-!
# Implied products in tokens and in groups

In a list of tokens an implied product stands between a token that ends a term and
one that starts a term (`Token.spellProducts`). Putting the products into the
bracket tree and into the tokens comes to the same (`Item.Spells.insertProducts`).
Afterwards no term directly follows another one at any level
(`Item.apart_insertProductsIn`), and where none did before nothing is put in
(`Item.insertProductsIn_of_apart`).
-/

namespace Calculator

namespace Token

def impliedProduct : Token := { kind := .operator, lexeme := "*" }

def endsTerm (token : Token) : Bool :=
  match token.kind with
  | .number => true
  | .bracket => !token.opensGroup
  | .operator => Operator.isSuffixed token.lexeme
  | .identifier => false

def startsTerm (token : Token) : Bool :=
  match token.kind with
  | .number => true
  | .bracket => token.opensGroup
  | .operator => token.fixity == some .prefixed
  | .identifier => false

/-- Tokens with a product between terms that merely touch. -/
def spellProducts : List Token → List Token
  | [] => []
  | token :: rest =>
    if token.endsTerm && rest.head?.any startsTerm then
      token :: impliedProduct :: spellProducts rest
    else token :: spellProducts rest

/-- In front of a token that starts no term the products on its left are complete. -/
theorem spellProducts_append {front rest : List Token}
    (behind : rest.head?.any startsTerm = false) :
    spellProducts (front ++ rest) = spellProducts front ++ spellProducts rest := by
  induction front with
  | nil => rfl
  | cons token front ih =>
      have starts : (front ++ rest).head?.any startsTerm = front.head?.any startsTerm := by
        cases front with
        | nil => exact behind
        | cons => rfl
      rw [List.cons_append, spellProducts, spellProducts, starts, ih]
      split <;> rfl

/-- Behind a token that ends no term there is no product. -/
theorem spellProducts_cons {token : Token} (open' : token.endsTerm = false)
    (rest : List Token) : spellProducts (token :: rest) = token :: spellProducts rest := by
  rw [spellProducts, open', Bool.false_and, if_neg Bool.false_ne_true]

/-- Leaving out what has no place in the text gives back the tokens that were
read. -/
theorem filter_spellProducts {tokens : List Token} (placed : ∀ token ∈ tokens, 0 ≤ token.position) :
    (spellProducts tokens).filter (fun token => !token.isSynthetic) = tokens := by
  induction tokens with
  | nil => rfl
  | cons token rest ih =>
      have real : token.isSynthetic = false :=
        decide_eq_false (Int.not_lt.mpr (placed token List.mem_cons_self))
      have later := ih fun other member => placed other (List.mem_cons_of_mem _ member)
      have implied : impliedProduct.isSynthetic = true := rfl
      rw [spellProducts]
      split <;> simp [real, implied, later]

/-- Tokens with products are the tokens that were read, and products. -/
theorem mem_of_mem_spellProducts {tokens : List Token} {token : Token}
    (member : token ∈ spellProducts tokens) : token ∈ tokens ∨ token = impliedProduct := by
  induction tokens with
  | nil => cases member
  | cons first rest ih =>
      rw [spellProducts] at member
      split at member
      · rcases List.mem_cons.mp member with rfl | later
        · exact .inl List.mem_cons_self
        · rcases List.mem_cons.mp later with rfl | inside
          · exact .inr rfl
          · exact (ih inside).imp_left (List.mem_cons_of_mem _)
      · rcases List.mem_cons.mp member with rfl | inside
        · exact .inl List.mem_cons_self
        · exact (ih inside).imp_left (List.mem_cons_of_mem _)

theorem isInfix_impliedProduct : impliedProduct.IsInfix := by decide

theorem startsTerm_of_isOpener {token : Token} (opens : token.IsOpener) :
    token.startsTerm = true := by
  simp [startsTerm, opens.1, opens.2]

theorem endsTerm_of_isOpener {token : Token} (opens : token.IsOpener) :
    token.endsTerm = false := by
  simp [endsTerm, opens.1, opens.2]

theorem startsTerm_of_isCloser {token : Token} (closes : token.IsCloser) :
    token.startsTerm = false := by
  simp [startsTerm, closes.1, closes.2]

theorem endsTerm_of_isCloser {token : Token} (closes : token.IsCloser) :
    token.endsTerm = true := by
  simp [endsTerm, closes.1, closes.2]

end Token

namespace Item

/-- Two items that do not merely touch: the one does not end a term, or the other
does not start one. -/
def Apart (left right : Item) : Prop := ¬ (left.endsValue = true ∧ right.startsValue = true)

@[simp] theorem endsValue_insertProducts (item : Item) :
    item.insertProducts.endsValue = item.endsValue := by
  cases item <;> simp [insertProducts, endsValue]

@[simp] theorem startsValue_insertProducts (item : Item) :
    item.insertProducts.startsValue = item.startsValue := by
  cases item <;> simp [insertProducts, startsValue]

theorem head?_insertProductsIn (items : List Item) :
    (insertProductsIn items).head? = items.head?.map insertProducts := by
  cases items with
  | nil => rfl
  | cons item rest =>
      rw [insertProductsIn]
      split <;> rfl

theorem endsValue_impliedProduct : impliedProduct.endsValue = false := by decide

theorem startsValue_impliedProduct : impliedProduct.startsValue = false := by decide

mutual

theorem apart_insertProducts :
    ∀ item : Item, Holds (fun _ => True) Apart item.insertProducts
  | .single _ => by simp [insertProducts]
  | .group _ _ items => by
      rw [insertProducts, holds_group]
      exact ⟨trivial, apart_insertProductsIn items⟩

/-- Once products are spelled out, terms no longer touch. -/
theorem apart_insertProductsIn :
    ∀ items : List Item, HoldsIn (fun _ => True) Apart (insertProductsIn items)
  | [] => trivial
  | item :: rest => by
      have front := apart_insertProducts item
      have later := apart_insertProductsIn rest
      rw [insertProductsIn]
      split
      · refine holdsIn_cons.mpr ⟨front, ?_, holdsIn_cons.mpr ⟨trivial, ?_, later⟩⟩
        · intro next member
          cases member
          exact fun both => absurd both.2 (by simp [startsValue_impliedProduct])
        · intro next member both
          exact absurd both.1 (by simp [endsValue_impliedProduct])
      · rename_i free
        refine holdsIn_cons.mpr ⟨front, ?_, later⟩
        intro next member both
        rw [head?_insertProductsIn, Option.mem_def, Option.map_eq_some_iff] at member
        obtain ⟨original, head, rfl⟩ := member
        rw [endsValue_insertProducts, startsValue_insertProducts] at both
        exact free (by simp [head, both.1, both.2])

end

mutual

theorem insertProducts_of_apart :
    ∀ {item : Item}, Holds (fun _ => True) Apart item → item.insertProducts = item
  | .single _, _ => by rw [insertProducts]
  | .group _ _ _, apart => by
      rw [insertProducts, insertProductsIn_of_apart (holds_group.mp apart).2]

/-- Where terms do not touch there is no product to spell out. -/
theorem insertProductsIn_of_apart :
    ∀ {items : List Item}, HoldsIn (fun _ => True) Apart items → insertProductsIn items = items
  | [], _ => rfl
  | item :: rest, apart => by
      obtain ⟨front, seam, later⟩ := holdsIn_cons.mp apart
      have free : (item.endsValue && rest.head?.any startsValue) = false := by
        cases rest with
        | nil => simp
        | cons next others =>
            have between := seam next rfl
            unfold Apart at between
            simpa using between
      rw [insertProductsIn, free, if_neg Bool.false_ne_true, insertProducts_of_apart front,
        insertProductsIn_of_apart later]

end

variable {config : Config}

theorem startsTerm_eq_startsValue {token : Token} (plain : token.kind ≠ .bracket) :
    token.startsTerm = startsValue (.single token) := by
  unfold Token.startsTerm startsValue
  cases kind : token.kind <;> simp_all

theorem endsTerm_eq_endsValue {token : Token} (plain : token.kind ≠ .bracket) :
    token.endsTerm = endsValue (.single token) := by
  unfold Token.endsTerm endsValue
  cases kind : token.kind <;> simp_all

/-- A term starts with the first token exactly if the first item is one. -/
theorem Spells.starts {items : List Item} {tokens rest : List Token}
    (spells : Spells config items tokens) (behind : rest.head?.any Token.startsTerm = false) :
    (tokens ++ rest).head?.any Token.startsTerm = items.head?.any startsValue := by
  cases spells with
  | nil => exact behind
  | single plain _ => exact startsTerm_eq_startsValue plain
  | group opens _ _ _ => exact Token.startsTerm_of_isOpener opens

/-- Products may be put into the tokens or into the items they are spelled by. -/
theorem Spells.exists_spellProducts {items : List Item} {tokens : List Token}
    (spells : Spells config items tokens) :
    ∀ rest : List Token, rest.head?.any Token.startsTerm = false →
      ∃ content, Spells config (insertProductsIn items) content ∧
        Token.spellProducts (tokens ++ rest) = content ++ Token.spellProducts rest := by
  induction spells with
  | nil => exact fun rest _ => ⟨[], .nil, rfl⟩
  | @single token items tokens plain spells ih =>
      intro rest behind
      obtain ⟨content, inside, split⟩ := ih rest behind
      rw [List.cons_append, Token.spellProducts, insertProductsIn, spells.starts behind,
        endsTerm_eq_endsValue plain, split, insertProducts]
      by_cases touch : (endsValue (.single token) && items.head?.any startsValue) = true
      · rw [if_pos touch, if_pos touch]
        exact ⟨_, .single plain (.single (by decide) inside), rfl⟩
      · rw [if_neg touch, if_neg touch]
        exact ⟨_, .single plain inside, rfl⟩
  | @group opener closer inner items content tokens opens closes _ spells innerIh ih =>
      intro rest behind
      obtain ⟨others, later, split⟩ := ih rest behind
      have closed : (closer :: (tokens ++ rest)).head?.any Token.startsTerm = false :=
        Token.startsTerm_of_isCloser closes.1
      obtain ⟨inside, spelled, innerSplit⟩ := innerIh (closer :: (tokens ++ rest)) closed
      have whole : Token.spellProducts (opener :: (content ++ closer :: tokens) ++ rest) =
          opener :: (inside ++ Token.spellProducts (closer :: (tokens ++ rest))) := by
        rw [List.cons_append, List.append_assoc, List.cons_append, Token.spellProducts,
          Token.endsTerm_of_isOpener opens, Bool.false_and, if_neg Bool.false_ne_true, innerSplit]
      rw [whole, Token.spellProducts, insertProductsIn, spells.starts behind,
        Token.endsTerm_of_isCloser closes.1, split, insertProducts]
      by_cases touch : items.head?.any startsValue = true
      · simp only [touch, endsValue, Bool.and_self, ↓reduceIte]
        exact ⟨_, .group opens closes spelled (.single (by decide) later), by simp; rfl⟩
      · simp only [touch, endsValue, Bool.and_false, Bool.false_eq_true, ↓reduceIte]
        exact ⟨_, .group opens closes spelled later, by simp⟩

theorem Spells.insertProducts {items : List Item} {tokens : List Token}
    (spells : Spells config items tokens) :
    Spells config (insertProductsIn items) (Token.spellProducts tokens) := by
  obtain ⟨content, inside, split⟩ := spells.exists_spellProducts [] rfl
  rw [List.append_nil, Token.spellProducts, List.append_nil] at split
  exact split ▸ inside

end Item

namespace Token

/-- Tokens behind a closing bracket with their products spelled out, the one with the
bracket included. -/
def spellBehind (rest : List Token) : List Token :=
  if rest.head?.any startsTerm then impliedProduct :: spellProducts rest else spellProducts rest

theorem spellProducts_closer {token : Token} (closes : token.IsCloser) (rest : List Token) :
    spellProducts (token :: rest) = token :: spellBehind rest := by
  rw [spellProducts, endsTerm_of_isCloser closes, Bool.true_and, spellBehind]
  split <;> rfl

theorem spellProducts_opener {token : Token} (opens : token.IsOpener) (rest : List Token) :
    spellProducts (token :: rest) = token :: spellProducts rest :=
  spellProducts_cons (endsTerm_of_isOpener opens) rest

end Token

namespace Group

open Item Token

variable {config : Config}

/-- A term starts with the first token exactly if one starts with the first item that is
nested from the tokens. -/
theorem starts_of_nest {opener : Option Token} {depth : Nat} {tokens rest : List Token}
    {items : List Item} (nested : nest config opener depth tokens = .ok (items, rest)) :
    tokens.head?.any startsTerm = items.head?.any startsValue := by
  have answer : Nested config opener tokens (nest config opener depth tokens) :=
    nested_nest opener depth tokens
  rw [nested] at answer
  obtain ⟨content, spells, ends⟩ := answer
  cases opener with
  | none =>
      obtain ⟨rfl, -⟩ := ends
      have starts := @Spells.starts _ _ _ [] spells rfl
      rwa [List.append_nil] at starts
  | some opener =>
      obtain ⟨closer, closes, rfl⟩ := ends
      exact Spells.starts spells (startsTerm_of_isCloser closes.1)

/-- The answer with its products spelled out, in the items and in what is left. -/
def spellAnswer (answer : List Item × List Token) : List Item × List Token :=
  (insertProductsIn answer.1, spellBehind answer.2)

theorem nest_spellProducts_single {token : Token} {tokens : List Token} {opener : Option Token}
    {depth : Nat} (plain : token.kind ≠ .bracket)
    (later : nest config opener depth (spellProducts tokens) =
      (nest config opener depth tokens).map spellAnswer) :
    nest config opener depth (spellProducts (token :: tokens)) =
      (nest config opener depth (token :: tokens)).map spellAnswer := by
  have product : impliedProduct.kind ≠ .bracket := by decide
  rw [spellProducts, nest_single plain]
  cases nested : nest config opener depth tokens with
  | error problem =>
      rw [nested] at later
      split <;> simp only [nest_single plain, nest_single product, later, Except.map]
  | ok answer =>
      rw [nested] at later
      rw [starts_of_nest nested, endsTerm_eq_endsValue plain]
      by_cases touch : (endsValue (.single token) && answer.1.head?.any startsValue) = true
      · simp only [touch, ↓reduceIte, nest_single plain, nest_single product, later, Except.map,
          spellAnswer, insertProductsIn, Item.insertProducts]
        rfl
      · simp only [touch, Bool.false_eq_true, ↓reduceIte, nest_single plain, later, Except.map,
          spellAnswer, insertProductsIn, Item.insertProducts]

theorem nest_spellBehind {tokens : List Token} {opener : Option Token} {depth : Nat}
    (later : nest config opener depth (spellProducts tokens) =
      (nest config opener depth tokens).map spellAnswer) (bracket : Option String)
    (position : Int) (inner : List Item) :
    (nest config opener depth (spellBehind tokens)).map (fun answer =>
        (Item.group bracket position (insertProductsIn inner) :: answer.1, answer.2)) =
      (nest config opener depth tokens).map fun answer =>
        spellAnswer (.group bracket position inner :: answer.1, answer.2) := by
  have product : impliedProduct.kind ≠ .bracket := by decide
  unfold spellBehind
  cases nested : nest config opener depth tokens with
  | error problem =>
      rw [nested] at later
      split <;> simp only [nest_single product, later, Except.map]
  | ok answer =>
      rw [nested] at later
      rw [starts_of_nest nested]
      by_cases touch : answer.1.head?.any startsValue = true
      · simp only [touch, ↓reduceIte, nest_single product, later, Except.map, spellAnswer,
          insertProductsIn, Item.insertProducts, endsValue, Bool.true_and]
        rfl
      · simp only [touch, Bool.false_eq_true, ↓reduceIte, later, Except.map, spellAnswer,
          insertProductsIn, Item.insertProducts, endsValue, Bool.true_and]

theorem nest_spellProducts_opener {token : Token} {tokens : List Token} {opener : Option Token}
    {depth : Nat} (opens : token.IsOpener)
    (inside : nest config (some token) (depth + 1) (spellProducts tokens) =
      (nest config (some token) (depth + 1) tokens).map spellAnswer)
    (later : ∀ behind, behind.length ≤ tokens.length →
      nest config opener depth (spellProducts behind) =
        (nest config opener depth behind).map spellAnswer) :
    nest config opener depth (spellProducts (token :: tokens)) =
      (nest config opener depth (token :: tokens)).map spellAnswer := by
  rw [spellProducts_opener opens, nest_opener opens, nest_opener opens, inside]
  split
  · rfl
  cases nested : nest config (some token) (depth + 1) tokens with
  | error problem => rfl
  | ok inner =>
      have after := later inner.2 (length_nest_le nested)
      refine (nest_spellBehind after (some token.lexeme) token.position
        inner.1).trans ?_
      simp only [Except.bind]
      cases nest config opener depth inner.2 <;> rfl

/-- Spelling products out in the tokens does it in the items that are nested from them,
and changes no problem. -/
theorem nest_spellProducts (opener : Option Token) (depth : Nat) (tokens : List Token) :
    nest config opener depth (spellProducts tokens) =
      (nest config opener depth tokens).map spellAnswer := by
  induction tokens using Token.bracket_induction generalizing opener depth with
  | nil =>
      cases opener with
      | none =>
          rw [spellProducts, nest_nil_none]
          rfl
      | some opener =>
          rw [spellProducts, nest_nil_some]
          rfl
  | plain token tokens plain ih => exact nest_spellProducts_single plain (ih opener depth)
  | opener token tokens opens ih =>
      refine nest_spellProducts_opener opens (ih tokens (Nat.le_refl _) (some token) (depth + 1)) ?_
      exact fun behind shorter => ih behind shorter opener depth
  | closer token tokens closes =>
      rw [spellProducts_closer closes]
      cases opener with
      | none =>
          rw [nest_stray closes, nest_stray closes]
          rfl
      | some opener =>
          by_cases matching : Token.Closes config opener token
          · rw [nest_closer matching, nest_closer matching]
            rfl
          · rw [nest_mismatched closes matching, nest_mismatched closes matching]
            rfl

theorem ofTokens_spellProducts (tokens : List Token) :
    ofTokens config (spellProducts tokens) = (ofTokens config tokens).map insertProducts := by
  rw [ofTokens_eq_nest, ofTokens_eq_nest, nest_spellProducts]
  cases nest config none 0 tokens <;> rfl

/-- Spelling products out twice puts in nothing more. -/
theorem insertProducts_insertProducts (group : Group) :
    group.insertProducts.insertProducts = group.insertProducts := by
  rw [Group.insertProducts, Group.insertProducts,
    insertProductsIn_of_apart (apart_insertProductsIn group.items)]

theorem prepare_spellProducts (tokens : List Token) :
    prepare config (spellProducts tokens) = prepare config tokens := by
  rw [prepare, prepare, ofTokens_spellProducts]
  cases ofTokens config tokens with
  | error problem => rfl
  | ok group =>
      change (insertProducts (insertProducts group)).relocateSuffixes config = _
      rw [insertProducts_insertProducts]
      rfl

end Group

/-- A product may be spelled out or implied. -/
theorem Tree.ofTokens_spellProducts (config : Config) (tokens : List Token) :
    Tree.ofTokens config (Token.spellProducts tokens) = Tree.ofTokens config tokens := by
  rw [Tree.ofTokens, Group.prepare_spellProducts]
  rfl

end Calculator
