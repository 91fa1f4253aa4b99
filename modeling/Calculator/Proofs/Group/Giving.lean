import Calculator.Proofs.Group.Arrangement

/-!
# Giving an operand to frames

The innermost frame takes whole operands from the right, one after the other, and
so does the space outside when no frame is open (`Frames.give`). Between two
operands a frame may still be open that is about to be closed. Such frames cannot
be told apart from those in which it has been closed already, neither by what is
left at the end nor by the next operator that is not tight (`Frames.Alike`).
-/

namespace Calculator

open Item

namespace Frames

/-- The frames after a whole operand has been put in front of the innermost one. -/
def give (operand : List Item) (frames : Frames) : Frames :=
  match frames.opened with
  | [] => ⟨[], operand ++ frames.outside⟩
  | frame :: others =>
    ⟨{ frame with operand := operand ++ frame.operand, complete := true } :: others,
      frames.outside⟩

/-- Whether the next operand goes to the innermost frame. -/
def Waiting (frames : Frames) : Prop :=
  ∀ frame ∈ frames.opened.head?, frame.suffix.IsMovedSuffix ∧ frame.complete = false

/-- Frames that no weak operator and no end of the items tells apart. -/
structure Alike (first second : Frames) : Prop where
  items : first.items = second.items
  insert : ∀ item : Item, item.isOperator = true → item.isTight = false →
    first.insert item = second.insert item

theorem Alike.refl (frames : Frames) : Alike frames frames := ⟨rfl, fun _ _ _ => rfl⟩

theorem Alike.trans {first second third : Frames} (left : Alike first second)
    (right : Alike second third) : Alike first third :=
  ⟨left.items.trans right.items,
    fun item operator loose => (left.insert item operator loose).trans
      (right.insert item operator loose)⟩

/-- Closing the innermost frame early makes no difference. -/
theorem alike_give_relocated {frame : Frame} (moved : frame.suffix.IsMovedSuffix)
    (frames : List Frame) (outside : List Item) :
    Alike ⟨frame :: frames, outside⟩
      (give [frame.relocated frame.operand] ⟨frames, outside⟩) := by
  refine ⟨?_, fun item operator loose => ?_⟩
  · cases frames with
    | nil => rfl
    | cons next others =>
        simp only [Frames.items, finish, give, List.nil_append]
        rfl
  · have passed : item.bindsTighterThan frame.suffix = false := by
      rw [bindsTighterThan_eq_isTight moved, loose]
    cases frames with
    | nil =>
        simp only [Frames.insert, place, operator, passed, ↓reduceIte, Bool.false_eq_true, give,
          List.nil_append]
    | cons next others =>
        simp only [Frames.insert, place, operator, passed, ↓reduceIte, Bool.false_eq_true, give,
          List.nil_append]
        rfl

/-- A value goes to the innermost frame if it waits. -/
theorem insert_of_waiting {frames : Frames} (waiting : frames.Waiting) {item : Item}
    (value : item.isOperator = false) : frames.insert item = frames.give [item] := by
  obtain ⟨opened, outside⟩ := frames
  cases opened with
  | nil => rfl
  | cons frame others =>
      have open' := (waiting frame rfl).2
      simp only [Frames.insert, place, value, open', Bool.false_eq_true, ↓reduceIte, give,
        List.nil_append, List.cons_append]

/-- An operator continues the operand of the innermost frame if it is tight. -/
theorem insert_give {frames : Frames} (waiting : frames.Waiting) {item : Item}
    (operator : item.isOperator = true) (tight : frames.opened ≠ [] → item.isTight = true)
    (operand : List Item) :
    ((frames.give operand).insert item).Waiting ∧
      (∀ further, ((frames.give operand).insert item).give further =
        frames.give (further ++ item :: operand)) ∧
      ((frames.give operand).insert item).opened.length = frames.opened.length := by
  obtain ⟨opened, outside⟩ := frames
  cases opened with
  | nil =>
      refine ⟨(fun _ none => absurd none (Option.not_mem_none _)), fun further => ?_, rfl⟩
      simp [Frames.insert, give, place]
  | cons frame others =>
      have moved := (waiting frame rfl).1
      have taken : item.bindsTighterThan frame.suffix = true := by
        rw [bindsTighterThan_eq_isTight moved]
        exact tight (List.cons_ne_nil _ _)
      have entered : (give operand ⟨frame :: others, outside⟩).insert item =
          ⟨⟨frame.suffix, item :: (operand ++ frame.operand), false⟩ :: others, outside⟩ := by
        simp only [give, Frames.insert, place, operator, taken, ↓reduceIte, List.nil_append]
      rw [entered]
      refine ⟨?_, fun further => by simp [give], rfl⟩
      rintro top ⟨⟩
      exact ⟨moved, rfl⟩

theorem settle_of_waiting {frames : Frames} (waiting : frames.Waiting) :
    frames.settle = frames := by
  obtain ⟨opened, outside⟩ := frames
  cases opened with
  | nil => rfl
  | cons frame others =>
      simp only [settle, (waiting frame rfl).2, Bool.false_eq_true, ↓reduceIte]

theorem waiting_empty : empty.Waiting := fun _ none => absurd none (Option.not_mem_none _)

theorem waiting_push {token : Token} (pending : token.isPendingSuffix = true) (frames : Frames) :
    (frames.push token).Waiting := by
  rintro frame ⟨⟩
  exact ⟨Token.isMovedSuffix_suffixed pending, rfl⟩

end Frames

namespace Item

variable {limit depth : Nat}

/-- The frames after further items on the left of those that have been gathered. -/
def enterAll (limit depth : Nat) : List Item → Frames → Except ParseProblem Frames
  | [], frames => .ok frames
  | item :: rest, frames => (enterAll limit depth rest frames).bind (item.enter limit depth)

theorem gather_eq_enterAll (items : List Item) :
    gather limit depth items = enterAll limit depth items Frames.empty := by
  induction items with
  | nil => rw [gather, enterAll]
  | cons item rest ih =>
      rw [gather, enterAll, ih]
      rfl

theorem enterAll_append (first second : List Item) (frames : Frames) :
    enterAll limit depth (first ++ second) frames =
      (enterAll limit depth second frames).bind (enterAll limit depth first) := by
  induction first with
  | nil =>
      rw [List.nil_append]
      rcases enterAll limit depth second frames with problem | after <;> rfl
  | cons item rest ih =>
      rw [List.cons_append, enterAll, ih]
      rcases enterAll limit depth second frames with problem | after <;> rfl

end Item

end Calculator
