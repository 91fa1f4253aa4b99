import Calculator.Proofs.Group.Grounding
import Calculator.Proofs.Group.Product

/-!
# Products put in and taken out

The items of a group and of all groups inside it are its levels (`Group.levels`). Spelling
products out does the same on every level (`Group.levels_insertProducts`). What it puts in
stands between the end of a value and the start of one (`Item.exists_factors`), and leaving
it out again gives the group of before (`Group.deleteImplied_insertProducts`).
-/

namespace Calculator

namespace Item

mutual

/-- The lists of items inside an item. -/
def levels : Item → List (List Item)
  | .single _ => []
  | .group _ _ items => items :: levelsIn items

/-- The lists of items inside several items. -/
def levelsIn : List Item → List (List Item)
  | [] => []
  | item :: rest => item.levels ++ levelsIn rest

end

mutual

/-- An item without the tokens inside it that have no place in the text. -/
def deleteImplied : Item → Item
  | .single token => .single token
  | .group bracket position items => .group bracket position (deleteImpliedIn items)

/-- Items without the tokens among and inside them that have no place in the text. -/
def deleteImpliedIn : List Item → List Item
  | [] => []
  | item :: rest =>
    if item.isImplied then deleteImpliedIn rest else item.deleteImplied :: deleteImpliedIn rest

end

theorem mem_levelsIn_of_mem {item : Item} {items level : List Item} (member : item ∈ items)
    (inside : level ∈ item.levels) : level ∈ levelsIn items := by
  induction items with
  | nil => cases member
  | cons first rest ih =>
      rw [levelsIn, List.mem_append]
      rcases List.mem_cons.mp member with rfl | later
      · exact .inl inside
      · exact .inr (ih later)

mutual

theorem Holds.level {P : Item → Prop} {R : Item → Item → Prop} :
    ∀ {item : Item}, Holds P R item → ∀ level ∈ item.levels, HoldsIn P R level
  | .single _, _, level, inside => by
      rw [levels] at inside
      cases inside
  | .group _ _ items, holds, level, inside => by
      rw [levels] at inside
      rcases List.mem_cons.mp inside with rfl | deeper
      · exact (holds_group.mp holds).2
      · exact HoldsIn.level (holds_group.mp holds).2 level deeper

/-- What holds in items holds on each level inside them. -/
theorem HoldsIn.level {P : Item → Prop} {R : Item → Item → Prop} :
    ∀ {items : List Item}, HoldsIn P R items → ∀ level ∈ levelsIn items, HoldsIn P R level
  | [], _, level, inside => by
      rw [levelsIn] at inside
      cases inside
  | item :: rest, holds, level, inside => by
      obtain ⟨front, -, later⟩ := holdsIn_cons.mp holds
      rw [levelsIn] at inside
      rcases List.mem_append.mp inside with here | behind
      · exact front.level level here
      · exact later.level level behind

end

theorem HoldsIn.neighbours {P : Item → Prop} {R : Item → Item → Prop} {items : List Item}
    (holds : HoldsIn P R items) {left right : Item} (near : [left, right] <:+: items) :
    R left right := by
  obtain ⟨front, behind, rfl⟩ := near
  rw [List.append_assoc] at holds
  exact (holdsIn_cons.mp (holdsIn_append.mp holds).2.1).2.1 right rfl

mutual

theorem levels_insertProducts :
    ∀ item : Item, item.insertProducts.levels = item.levels.map insertProductsIn
  | .single _ => by rw [insertProducts, levels, List.map_nil]
  | .group _ _ items => by
      rw [insertProducts, levels, levels, levelsIn_insertProductsIn items, List.map_cons]

theorem levelsIn_insertProductsIn :
    ∀ items : List Item, levelsIn (insertProductsIn items) = (levelsIn items).map insertProductsIn
  | [] => by rw [insertProductsIn, levelsIn, List.map_nil]
  | item :: rest => by
      have product : impliedProduct.levels = [] := by rw [impliedProduct, levels]
      rw [insertProductsIn, levelsIn, List.map_append, ← levels_insertProducts item,
        ← levelsIn_insertProductsIn rest]
      split
      · rw [levelsIn, levelsIn, product, List.nil_append]
      · rw [levelsIn]

end

/-- A token without a place is a product that was put in between two values. -/
theorem exists_factors {items front behind : List Item} {token : Token}
    (placed : ∀ item ∈ items, item.isImplied = false)
    (split : insertProductsIn items = front ++ .single token :: behind)
    (synthetic : token.isSynthetic = true) :
    Item.single token = impliedProduct ∧ (∃ left ∈ front.getLast?, left.endsValue = true) ∧
      ∃ right ∈ behind.head?, right.startsValue = true := by
  induction items generalizing front with
  | nil =>
      rw [insertProductsIn] at split
      exact absurd split.symm (by simp)
  | cons item rest ih =>
      have real : ∀ other ∈ rest, other.isImplied = false :=
        fun other member => placed other (List.mem_cons_of_mem _ member)
      have read : item.insertProducts ≠ .single token := by
        intro same
        have known := placed item List.mem_cons_self
        rw [← isImplied_insertProducts, same, isImplied, synthetic] at known
        cases known
      have onward : ∀ {front : List Item} (first : Item),
          insertProductsIn rest = front ++ .single token :: behind →
            Item.single token = impliedProduct ∧
              (∃ left ∈ (first :: front).getLast?, left.endsValue = true) ∧
              ∃ right ∈ behind.head?, right.startsValue = true := by
        intro front first inside
        obtain ⟨product, ⟨left, last, ends⟩, starts⟩ := ih real inside
        refine ⟨product, ⟨left, ?_, ends⟩, starts⟩
        rw [Option.mem_def] at last ⊢
        rw [List.getLast?_cons, last, Option.getD_some]
      rw [insertProductsIn] at split
      rcases front with _ | ⟨first, front⟩
      · split at split
        · exact absurd (List.cons.inj split).1 read
        · exact absurd (List.cons.inj split).1 read
      split at split
      · rename_i touch
        obtain ⟨ends, starts⟩ := Bool.and_eq_true_iff.mp touch
        obtain ⟨rfl, tail⟩ := List.cons.inj split
        rcases front with _ | ⟨second, front⟩
        · -- This is the product behind the first item.
          obtain ⟨product, rfl⟩ := List.cons.inj tail
          refine ⟨product.symm, ⟨_, rfl, (endsValue_insertProducts item).trans ends⟩, ?_⟩
          rw [head?_insertProductsIn]
          obtain ⟨next, head, starts⟩ := (Option.any_eq_true ..).mp starts
          exact ⟨next.insertProducts, by rw [head]; rfl,
            (startsValue_insertProducts next).trans starts⟩
        · obtain ⟨rfl, inside⟩ := List.cons.inj tail
          rw [List.getLast?_cons_cons]
          exact onward _ inside
      · exact onward first (List.cons.inj split).2

mutual

theorem deleteImplied_insertProducts :
    ∀ {item : Item}, (∀ level ∈ item.levels, ∀ inner ∈ level, inner.isImplied = false) →
      item.insertProducts.deleteImplied = item
  | .single _, _ => by rw [insertProducts, deleteImplied]
  | .group _ _ items, placed => by
      rw [insertProducts, deleteImplied]
      rw [levels] at placed
      rw [deleteImpliedIn_insertProductsIn placed]

/-- Taking the products out gives back the items that they were put into. -/
theorem deleteImpliedIn_insertProductsIn :
    ∀ {items : List Item},
      (∀ level ∈ items :: levelsIn items, ∀ inner ∈ level, inner.isImplied = false) →
        deleteImpliedIn (insertProductsIn items) = items
  | [], _ => by rw [insertProductsIn, deleteImpliedIn]
  | item :: rest, placed => by
      have real : item.insertProducts.isImplied = false := by
        rw [isImplied_insertProducts]
        exact placed _ List.mem_cons_self item List.mem_cons_self
      have product : impliedProduct.isImplied = true := rfl
      have inside : ∀ level ∈ item.levels, ∀ inner ∈ level, inner.isImplied = false := by
        intro level member
        refine placed level (List.mem_cons_of_mem _ ?_)
        exact mem_levelsIn_of_mem List.mem_cons_self member
      have behind : ∀ level ∈ rest :: levelsIn rest, ∀ inner ∈ level,
          inner.isImplied = false := by
        intro level member inner known
        rcases List.mem_cons.mp member with rfl | deeper
        · exact placed _ List.mem_cons_self inner (List.mem_cons_of_mem _ known)
        · refine placed level (List.mem_cons_of_mem _ ?_) inner known
          rw [levelsIn]
          exact List.mem_append_right _ deeper
      have front := deleteImplied_insertProducts inside
      have later := deleteImpliedIn_insertProductsIn behind
      rw [insertProductsIn]
      split
      · simp only [deleteImpliedIn, real, product, front, later, Bool.false_eq_true, ↓reduceIte]
      · simp only [deleteImpliedIn, real, front, later, Bool.false_eq_true, ↓reduceIte]

end

end Item

namespace Group

open Item

/-- The items of a group, and those of each group inside it. -/
def levels (group : Group) : List (List Item) := group.items :: levelsIn group.items

/-- A group without the tokens that have no place in the text. -/
def deleteImplied (group : Group) : Group :=
  { group with items := deleteImpliedIn group.items }

theorem levels_insertProducts (group : Group) :
    group.insertProducts.levels = group.levels.map insertProductsIn := by
  rw [levels, levels, List.map_cons, ← levelsIn_insertProductsIn]
  rfl

theorem deleteImplied_insertProducts {group : Group}
    (placed : ∀ level ∈ group.levels, ∀ item ∈ level, item.isImplied = false) :
    group.insertProducts.deleteImplied = group :=
  congrArg (fun items : List Item => { group with items := items })
    (deleteImpliedIn_insertProductsIn placed)

/-- On no level does a value end where the next one starts. -/
theorem apart_insertProducts (group : Group) {level : List Item}
    (inside : level ∈ group.insertProducts.levels) {left right : Item}
    (near : [left, right] <:+: level) : Item.Apart left right := by
  have apart := apart_insertProductsIn group.items
  rcases List.mem_cons.mp inside with rfl | deeper
  · exact apart.neighbours near
  · exact (apart.level level deeper).neighbours near

end Group

end Calculator
