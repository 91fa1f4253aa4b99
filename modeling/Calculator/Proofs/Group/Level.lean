import Calculator.Group.Basic
import Mathlib

/-!
# Properties at every level

A property may hold of every item and of every two neighbours, at every level of
nesting (`Item.HoldsIn`). To hold in two lists put together it must hold in each
and at the seam (`Item.holdsIn_append`).
-/

namespace Calculator

namespace Item

mutual

/-- A property of an item and of all items inside it, and a relation of all
neighbours inside it. -/
def Holds (P : Item → Prop) (R : Item → Item → Prop) : Item → Prop
  | .single token => P (.single token)
  | .group bracket position items => P (.group bracket position items) ∧ HoldsIn P R items

/-- A property of all items at every level, and a relation of all neighbours at
every level. -/
def HoldsIn (P : Item → Prop) (R : Item → Item → Prop) : List Item → Prop
  | [] => True
  | item :: rest => Holds P R item ∧ (∀ next ∈ rest.head?, R item next) ∧ HoldsIn P R rest

end

variable {P Q : Item → Prop} {R S : Item → Item → Prop}

@[simp] theorem holdsIn_nil : HoldsIn P R [] := trivial

theorem holdsIn_cons {item : Item} {rest : List Item} :
    HoldsIn P R (item :: rest) ↔
      Holds P R item ∧ (∀ next ∈ rest.head?, R item next) ∧ HoldsIn P R rest := by
  rw [HoldsIn]

@[simp] theorem holds_single {token : Token} : Holds P R (.single token) ↔ P (.single token) := by
  rw [Holds]

@[simp] theorem holds_group {bracket : Option String} {position : Int} {items : List Item} :
    Holds P R (.group bracket position items) ↔
      P (.group bracket position items) ∧ HoldsIn P R items := by
  rw [Holds]

theorem Holds.here {item : Item} (holds : Holds P R item) : P item := by
  cases item with
  | single token => exact holds_single.mp holds
  | group bracket position items => exact (holds_group.mp holds).1

@[simp] theorem holdsIn_singleton {item : Item} : HoldsIn P R [item] ↔ Holds P R item := by
  simp [holdsIn_cons]

theorem holdsIn_append {first second : List Item} :
    HoldsIn P R (first ++ second) ↔
      HoldsIn P R first ∧ HoldsIn P R second ∧
        ∀ left ∈ first.getLast?, ∀ right ∈ second.head?, R left right := by
  induction first with
  | nil => simp
  | cons item rest ih =>
      cases rest with
      | nil =>
          rw [List.cons_append, List.nil_append, holdsIn_cons, holdsIn_singleton]
          simp only [List.getLast?_singleton, Option.mem_def, Option.some.injEq, forall_eq']
          tauto
      | cons next others =>
          rw [List.cons_append, holdsIn_cons, ih, @holdsIn_cons _ _ item]
          simp only [List.cons_append, List.head?_cons, List.getLast?_cons_cons]
          tauto

mutual

/-- A property and a relation may be weakened. The new relation may make use of the
old property of both neighbours. -/
theorem Holds.imp_near (weaker : ∀ item, P item → Q item) (looser : ∀ left right, P left →
    P right → R left right → S left right) : ∀ {item : Item}, Holds P R item → Holds Q S item
  | .single _, holds => holds_single.mpr (weaker _ (holds_single.mp holds))
  | .group _ _ _, holds =>
    holds_group.mpr ⟨weaker _ (holds_group.mp holds).1,
      HoldsIn.imp_near weaker looser (holds_group.mp holds).2⟩

theorem HoldsIn.imp_near (weaker : ∀ item, P item → Q item) (looser : ∀ left right, P left →
    P right → R left right → S left right) :
    ∀ {items : List Item}, HoldsIn P R items → HoldsIn Q S items
  | [], _ => trivial
  | item :: rest, holds => by
      obtain ⟨front, seam, later⟩ := holdsIn_cons.mp holds
      refine holdsIn_cons.mpr ⟨Holds.imp_near weaker looser front, ?_,
        HoldsIn.imp_near weaker looser later⟩
      intro next member
      cases rest with
      | nil => cases member
      | cons other others =>
          obtain rfl := Option.some.inj member
          exact looser item other front.here (holdsIn_cons.mp later).1.here (seam other rfl)

end

theorem HoldsIn.imp (weaker : ∀ item, P item → Q item) (looser : ∀ left right, R left right →
    S left right) {items : List Item} (holds : HoldsIn P R items) : HoldsIn Q S items :=
  holds.imp_near weaker fun left right _ _ => looser left right

mutual

theorem holds_of_forall (all : ∀ item, P item) (related : ∀ left right, R left right) :
    ∀ {item : Item}, Holds P R item
  | .single _ => holds_single.mpr (all _)
  | .group _ _ _ => holds_group.mpr ⟨all _, holdsIn_of_forall all related⟩

theorem holdsIn_of_forall (all : ∀ item, P item) (related : ∀ left right, R left right) :
    ∀ {items : List Item}, HoldsIn P R items
  | [] => trivial
  | item :: _ => holdsIn_cons.mpr ⟨holds_of_forall all related, fun next _ => related item next,
      holdsIn_of_forall all related⟩

end

mutual

theorem Holds.and : ∀ {item : Item}, Holds P R item → Holds Q S item →
    Holds (fun item => P item ∧ Q item) (fun left right => R left right ∧ S left right) item
  | .single _, first, second => holds_single.mpr ⟨holds_single.mp first, holds_single.mp second⟩
  | .group _ _ _, first, second =>
    have ⟨front, inside⟩ := holds_group.mp first
    have ⟨front', inside'⟩ := holds_group.mp second
    holds_group.mpr ⟨⟨front, front'⟩, HoldsIn.and inside inside'⟩

theorem HoldsIn.and : ∀ {items : List Item}, HoldsIn P R items → HoldsIn Q S items →
    HoldsIn (fun item => P item ∧ Q item) (fun left right => R left right ∧ S left right) items
  | [], _, _ => trivial
  | _ :: _, first, second =>
    have ⟨front, seam, later⟩ := holdsIn_cons.mp first
    have ⟨front', seam', later'⟩ := holdsIn_cons.mp second
    holdsIn_cons.mpr ⟨Holds.and front front',
      fun next member => ⟨seam next member, seam' next member⟩, HoldsIn.and later later'⟩

end

end Item

end Calculator
