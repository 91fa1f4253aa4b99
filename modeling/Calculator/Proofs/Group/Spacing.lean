import Calculator.Proofs.Group.Arrangement
import Calculator.Proofs.Group.Product

/-!
# Operands stay apart

After implied products are spelled out and suffixes have moved, no operand and no
operator before an operand directly follows a complete operand, at any level
(`Item.spacedIn_of_gather`). Moving suffixes keeps operands apart because a suffix
only opens a frame where nothing starts an operand, and an operand only comes to
frames that wait for one.
-/

namespace Calculator

namespace Item

/-- Whether an operand is complete with an item. -/
def endsOperand : Item → Bool
  | .group .. => true
  | .single token => token.kind == .number

/-- Whether an operand starts with an item. -/
def startsOperand : Item → Bool
  | .group .. => true
  | .single token => token.kind == .number || token.fixity.isSome

/-- An item that may stand behind a complete operand. -/
def Spaced (left right : Item) : Prop :=
  left.endsOperand = true → right.startsOperand = false

/-- No operand directly follows a complete one, at any level. -/
abbrev SpacedIn (items : List Item) : Prop := HoldsIn (fun _ => True) Spaced items

/-- No operand starts with the first item, if there is one. -/
def Detached (items : List Item) : Prop := ∀ item ∈ items.head?, item.startsOperand = false

theorem Spaced.of_operator {left : Item} (operator : left.endsOperand = false) (right : Item) :
    Spaced left right := by
  intro ends
  rw [operator] at ends
  cases ends

theorem detached_nil : Detached [] := fun _ head => absurd head (Option.not_mem_none _)

/-- A group in front of items that do not start an operand. -/
theorem spacedIn_group {bracket : Option String} {position : Int} {inner rest : List Item}
    (inside : SpacedIn inner) (spaced : SpacedIn rest) (detached : Detached rest) :
    SpacedIn (.group bracket position inner :: rest) :=
  holdsIn_cons.mpr
    ⟨holds_group.mpr ⟨trivial, inside⟩, fun next head _ => detached next head, spaced⟩

end Item

open Item

theorem Frame.spacedIn_relocated {frame : Frame} (moved : frame.suffix.IsMovedSuffix)
    {operand rest : List Item} (inside : SpacedIn operand) (spaced : SpacedIn rest)
    (detached : Detached rest) : SpacedIn (frame.relocated operand :: rest) := by
  have operator : endsOperand (.single frame.suffix) = false := by
    rw [endsOperand, moved.1]
    rfl
  exact spacedIn_group
    (holdsIn_cons.mpr ⟨trivial, fun next _ => .of_operator operator next, inside⟩) spaced detached

namespace Frames

/-- The lists of items in the frames, innermost first, and the one outside. -/
def layers (frames : Frames) : List (List Item) :=
  frames.opened.map Frame.operand ++ [frames.outside]

/-- Operands are apart in all frames, and none starts where a frame was opened. -/
structure Spaced (frames : Frames) : Prop where
  moved : ∀ frame ∈ frames.opened, frame.suffix.IsMovedSuffix
  front : SpacedIn frames.front
  around : ∀ layer ∈ frames.layers.tail, SpacedIn layer ∧ Detached layer

/-- The next item may be an operand. -/
structure Free (frames : Frames) : Prop where
  incomplete : ∀ frame ∈ frames.opened.head?, frame.complete = false
  detached : Detached frames.front

theorem Spaced.below {frame : Frame} {frames : List Frame} {outside : List Item}
    (spaced : Spaced ⟨frame :: frames, outside⟩) :
    Spaced ⟨frames, outside⟩ ∧ Detached (⟨frames, outside⟩ : Frames).front := by
  have around := spaced.around
  cases frames with
  | nil =>
      have bottom := around outside List.mem_cons_self
      exact ⟨⟨List.forall_mem_nil _, bottom.1, List.forall_mem_nil _⟩,
        bottom.2⟩
  | cons next others =>
      have top := around next.operand List.mem_cons_self
      refine ⟨⟨fun other member => spaced.moved other (List.mem_cons_of_mem _ member), top.1,
        fun layer member => around layer (List.mem_cons_of_mem _ member)⟩, top.2⟩

/-- An operator that is no complete operand may be placed anywhere. -/
theorem spaced_place {item : Item} {outside arrived : List Item} {frames : List Frame}
    (operator : item.endsOperand = false) (inside : Holds (fun _ => True) Item.Spaced item)
    (front : SpacedIn (arrived ++ (⟨frames, outside⟩ : Frames).front))
    (spaced : Spaced ⟨frames, outside⟩) : (place item outside arrived frames).Spaced := by
  induction frames generalizing arrived with
  | nil =>
      refine ⟨List.forall_mem_nil _, ?_, List.forall_mem_nil _⟩
      exact holdsIn_cons.mpr ⟨inside, fun next _ => .of_operator operator next, front⟩
  | cons frame frames ih =>
      have moved := spaced.moved frame List.mem_cons_self
      obtain ⟨below, detached⟩ := spaced.below
      have absorbed : ∀ complete,
          Spaced ⟨⟨frame.suffix, item :: (arrived ++ frame.operand), complete⟩ :: frames,
            outside⟩ := by
        intro complete
        refine ⟨fun other member => ?_, ?_, spaced.around⟩
        · rcases List.mem_cons.mp member with rfl | later
          · exact moved
          · exact below.moved other later
        · exact holdsIn_cons.mpr ⟨inside, fun next _ => .of_operator operator next, front⟩
      have passed :
          (place item outside [frame.relocated (arrived ++ frame.operand)] frames).Spaced :=
        ih (Frame.spacedIn_relocated moved front below.front detached) below
      rw [place]
      split
      · split
        · exact absorbed false
        · exact passed
      · split
        · exact passed
        · exact absorbed true

theorem head?_front_place (item : Item) (outside arrived : List Item) (frames : List Frame) :
    (place item outside arrived frames).front.head? = some item := by
  induction frames generalizing arrived with
  | nil => rfl
  | cons frame frames ih =>
      rw [place]
      split
      · split
        · rfl
        · exact ih _
      · split
        · exact ih _
        · rfl

theorem incomplete_place {item : Item} (operator : item.isOperator = true)
    (outside arrived : List Item) (frames : List Frame) :
    ∀ frame ∈ (place item outside arrived frames).opened.head?, frame.complete = false := by
  induction frames generalizing arrived with
  | nil => exact fun _ head => absurd head (Option.not_mem_none _)
  | cons frame frames ih =>
      rw [place, if_pos operator]
      split
      · rintro top ⟨⟩
        rfl
      · exact ih _

/-- An operand comes to frames that wait for one. -/
theorem Spaced.insert_of_free {frames : Frames} (spaced : frames.Spaced) (free : frames.Free)
    {item : Item} (value : item.isOperator = false)
    (inside : Holds (fun _ => True) Item.Spaced item) : (frames.insert item).Spaced := by
  obtain ⟨opened, outside⟩ := frames
  have front : SpacedIn (item :: (⟨opened, outside⟩ : Frames).front) :=
    holdsIn_cons.mpr ⟨inside, fun next head _ => free.detached next head, spaced.front⟩
  cases opened with
  | nil => exact ⟨List.forall_mem_nil _, front, List.forall_mem_nil _⟩
  | cons frame others =>
      have waits := free.incomplete frame rfl
      have entered : Frames.insert item ⟨frame :: others, outside⟩ =
          ⟨⟨frame.suffix, item :: frame.operand, true⟩ :: others, outside⟩ := by
        simp only [Frames.insert, place, value, waits, Bool.false_eq_true, ↓reduceIte,
          List.nil_append]
      rw [entered]
      refine ⟨fun other member => ?_, front, spaced.around⟩
      rcases List.mem_cons.mp member with rfl | later
      · exact spaced.moved frame List.mem_cons_self
      · exact spaced.moved other (List.mem_cons_of_mem _ later)

theorem settle_of_free {frames : Frames} (free : frames.Free) : frames.settle = frames := by
  obtain ⟨opened, outside⟩ := frames
  cases opened with
  | nil => rfl
  | cons frame others =>
      simp only [settle, free.incomplete frame rfl, Bool.false_eq_true, ↓reduceIte]

/-- A suffix opens a frame where no operand starts. -/
theorem Spaced.push {frames : Frames} (spaced : frames.Spaced) (free : frames.Free) {token : Token}
    (pending : token.isPendingSuffix = true) :
    (frames.push token).Spaced ∧ (frames.push token).Free := by
  refine ⟨⟨fun frame member => ?_, holdsIn_nil, fun layer member => ?_⟩, ?_, detached_nil⟩
  · rcases List.mem_cons.mp member with rfl | later
    · exact Token.isMovedSuffix_suffixed pending
    · exact spaced.moved frame later
  · have inside : layer ∈ frames.layers := member
    obtain ⟨opened, outside⟩ := frames
    cases opened with
    | nil =>
        obtain rfl := List.mem_singleton.mp inside
        exact ⟨spaced.front, free.detached⟩
    | cons frame others =>
        rcases List.mem_cons.mp inside with rfl | later
        · exact ⟨spaced.front, free.detached⟩
        · exact spaced.around layer later
  · rintro frame ⟨⟩
    rfl

theorem spacedIn_finish {outside arrived : List Item} {frames : List Frame}
    (front : SpacedIn (arrived ++ (⟨frames, outside⟩ : Frames).front))
    (spaced : Spaced ⟨frames, outside⟩) : SpacedIn (finish outside arrived frames) := by
  induction frames generalizing arrived with
  | nil => exact front
  | cons frame frames ih =>
      have moved := spaced.moved frame List.mem_cons_self
      obtain ⟨below, detached⟩ := spaced.below
      exact ih (Frame.spacedIn_relocated moved front below.front detached) below

theorem Spaced.items {frames : Frames} (spaced : frames.Spaced) : SpacedIn frames.items :=
  spacedIn_finish spaced.front spaced

end Frames

namespace Item

variable {limit depth : Nat}

/-- What stands to the right of an item that ends a value leaves the frames free. -/
theorem free_of_apart {item : Item} {rest : List Item} {frames : Frames}
    (ends : item.endsValue = true) (seam : ∀ next ∈ rest.head?, Apart item next)
    (free : (∀ next ∈ rest.head?, next.startsValue = false) → frames.Free) : frames.Free := by
  apply free
  intro next head
  have between := seam next head
  unfold Apart at between
  simpa [ends] using between

theorem endsOperand_of_kind {token : Token} (operator : token.kind = .operator) :
    endsOperand (.single token) = false := by
  rw [endsOperand, operator]
  rfl

/-- Gathering keeps operands apart. -/
theorem spaced_of_gather {items : List Item} {frames : Frames}
    (apart : HoldsIn (Raw Token.IsArrangeable) Apart items)
    (gathered : gather limit depth items = .ok frames) : frames.Spaced := by
  refine (gather_induction (P := fun items frames =>
    HoldsIn (Raw Token.IsArrangeable) Apart items → frames.Spaced ∧
      ((∀ next ∈ items.head?, next.startsValue = false) → frames.Free))
    ?nil ?suffix ?single ?group items depth frames gathered apart).1
  case nil =>
    intro _
    refine ⟨⟨List.forall_mem_nil _, holdsIn_nil, List.forall_mem_nil _⟩, ?_⟩
    exact fun _ => ⟨(fun _ head => absurd head (Option.not_mem_none _)), detached_nil⟩
  case suffix =>
    intro token rest frames pending ih apart
    obtain ⟨-, seam, later⟩ := holdsIn_cons.mp apart
    obtain ⟨spaced, free⟩ := ih later
    have ends : endsValue (.single token) = true := by
      unfold Token.isPendingSuffix at pending
      simp only [Bool.and_eq_true, beq_iff_eq] at pending
      simp [endsValue, pending.1.1, pending.2]
    have freed := free_of_apart ends seam free
    rw [Frames.settle_of_free freed]
    obtain ⟨pushed, waiting⟩ := spaced.push freed pending
    exact ⟨pushed, fun _ => waiting⟩
  case single =>
    intro token rest frames placed ih apart
    obtain ⟨front, seam, later⟩ := holdsIn_cons.mp apart
    obtain ⟨spaced, free⟩ := ih later
    have role : token.IsArrangeable := holds_single.mp front placed
    by_cases number : token.kind = .number
    · have ends : endsValue (.single token) = true := by simp [endsValue, number]
      have value : isOperator (.single token) = false := by simp [isOperator, number]
      refine ⟨spaced.insert_of_free (free_of_apart ends seam free) value trivial, fun starts => ?_⟩
      have other := starts _ rfl
      simp [startsValue, number] at other
    · have operator : token.kind = .operator := by
        rcases role with role | role | role
        · exact absurd role number
        · exact role.1
        · exact role.1
      refine ⟨Frames.spaced_place (endsOperand_of_kind operator) trivial spaced.front spaced,
        fun starts => ⟨Frames.incomplete_place (by simp [isOperator, operator]) _ _ _, ?_⟩⟩
      intro next head
      have same : some (.single token) = some next :=
        (Frames.head?_front_place _ _ _ _).symm.trans head
      cases same
      have other := starts _ rfl
      have plain : token.fixity = none := by
        rcases role with role | role | role
        · exact absurd role number
        · simp [startsValue, role.1, role.2.1] at other
        · exact role.2.1
      simp [startsOperand, operator, plain]
  case group =>
    intro bracket position inner innerFrames rest frames innerIh ih apart
    obtain ⟨front, seam, later⟩ := holdsIn_cons.mp apart
    obtain ⟨spaced, free⟩ := ih later
    have inside := (innerIh (holds_group.mp front).2).1.items
    refine ⟨spaced.insert_of_free (free_of_apart rfl seam free) rfl
      (holds_group.mpr ⟨trivial, inside⟩),
      fun starts => ?_⟩
    have other := starts _ rfl
    cases other

end Item

end Calculator
