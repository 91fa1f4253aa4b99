import Calculator.Proofs.Group.Frames

/-!
# Where moved suffixes stand

After suffix operators have moved, each of them stands at the front of a group of
its own and nowhere else. All other operators in that group are tight, so that the
operand is held together, and no tight operator stands directly before the group,
so that the operand is as long as it can be (`Item.Arranged`). Gathering
establishes this for all items (`Item.arranged_of_gather`).
-/

namespace Calculator

/-- A suffix operator that stands in front of its operand. -/
def Token.IsMovedSuffix (token : Token) : Prop :=
  token.kind = .operator ∧ Operator.isSuffixed token.lexeme = true ∧
    token.fixity = some .suffixed

theorem Token.IsMovedSuffix.isTight_eq {token : Token} (moved : token.IsMovedSuffix) :
    token.isTight = false := by
  rw [Token.isTight, Token.precedence_of_isSuffixed token moved.2.1 moved.2.2]
  rfl

theorem Token.isMovedSuffix_suffixed {token : Token} (pending : token.isPendingSuffix = true) :
    token.suffixed.IsMovedSuffix := by
  unfold Token.isPendingSuffix at pending
  simp only [Bool.and_eq_true, beq_iff_eq] at pending
  exact ⟨pending.1.1, pending.2, rfl⟩

namespace Item

def isMoved : Item → Bool
  | .group none _ _ => true
  | _ => false

def isTight : Item → Bool
  | .single token => token.kind == .operator && token.isTight
  | .group .. => false

/-- Every token directly among the items has the property. -/
def Among (T : Token → Prop) (items : List Item) : Prop := ∀ token, .single token ∈ items → T token

/-- Every operator directly among the items is tight. -/
def TightIn (items : List Item) : Prop :=
  Among (fun token => token.kind = .operator → token.isTight = true) items

/-- A group without a bracket holds a moved suffix and an operand of tight
operators. -/
def WellGrouped (T : Token → Prop) : Item → Prop
  | .single _ => True
  | .group (some _) _ items => Among T items
  | .group none position items => ∃ suffix operand, items = .single suffix :: operand ∧
      suffix.IsMovedSuffix ∧ position = suffix.position ∧ Among T operand ∧ TightIn operand

/-- No tight operator stands directly before the group of a moved suffix. -/
def Clear (left right : Item) : Prop := right.isMoved = true → left.isTight = false

/-- Moved suffixes stand at the front of groups of their own, all other tokens
have the given property, and operands reach as far as they can. -/
def Arranged (T : Token → Prop) (items : List Item) : Prop :=
  Among T items ∧ HoldsIn (WellGrouped T) Clear items

variable {T : Token → Prop}

theorem among_nil : Among T [] := fun _ member => absurd member List.not_mem_nil

theorem among_cons {item : Item} {rest : List Item} :
    Among T (item :: rest) ↔ (∀ token, item = .single token → T token) ∧ Among T rest := by
  constructor
  · intro all
    exact ⟨fun token same => all token (same ▸ List.mem_cons_self),
      fun token member => all token (List.mem_cons_of_mem _ member)⟩
  · rintro ⟨front, later⟩ token member
    rcases List.mem_cons.mp member with same | inside
    · exact front token same.symm
    · exact later token inside

theorem among_append {first second : List Item} :
    Among T (first ++ second) ↔ Among T first ∧ Among T second := by
  induction first with
  | nil => simp [among_nil]
  | cons item rest ih => rw [List.cons_append, among_cons, among_cons, ih, and_assoc]

theorem arranged_nil : Arranged T [] := ⟨among_nil, holdsIn_nil⟩

/-- Only tight operators bind tighter than a moved suffix. -/
theorem bindsTighterThan_eq_isTight {suffix : Token} (moved : suffix.IsMovedSuffix) (item : Item) :
    item.bindsTighterThan suffix = item.isTight := by
  cases item with
  | single token =>
      rw [bindsTighterThan, Operator.bindsTighter_suffixed _ _ moved.2.1 moved.2.2, isTight]
  | group => rfl

theorem isTight_of_operand {item : Item} (operand : item.isOperator = false) :
    item.isTight = false := by
  cases item with
  | single token =>
      rw [isOperator] at operand
      rw [isTight, operand, Bool.false_and]
  | group => rfl

/-- An operand or a tight operator may join tight operators. -/
theorem TightIn.cons {item : Item} {rest : List Item} (tight : TightIn rest)
    (joins : item.isOperator = true → item.isTight = true) : TightIn (item :: rest) := by
  refine among_cons.mpr ⟨?_, tight⟩
  rintro token rfl operator
  have strong := joins (by rw [isOperator, operator]; rfl)
  rw [isTight, Bool.and_eq_true] at strong
  exact strong.2

/-- One more item on the left keeps the arrangement. -/
theorem Arranged.cons {item : Item} {rest : List Item} (arranged : Arranged T rest)
    (token : ∀ token, item = .single token → T token) (inside : Holds (WellGrouped T) Clear item)
    (seam : ∀ next ∈ rest.head?, Clear item next) : Arranged T (item :: rest) :=
  ⟨among_cons.mpr ⟨token, arranged.1⟩, holdsIn_cons.mpr ⟨inside, seam, arranged.2⟩⟩

end Item

open Item

/-- A frame whose operand is arranged and held together by tight operators. -/
structure Frame.Arranged (T : Token → Prop) (frame : Frame) : Prop where
  suffix : frame.suffix.IsMovedSuffix
  operand : Item.Arranged T frame.operand
  tight : TightIn frame.operand

variable {T : Token → Prop}

/-- The group that a frame turns into. -/
theorem Frame.Arranged.holds_relocated {frame : Frame} {operand : List Item}
    (arranged : frame.Arranged T) (inside : Item.Arranged T operand) (tight : TightIn operand) :
    Holds (WellGrouped T) Clear (frame.relocated operand) := by
  rw [Frame.relocated, holds_group, holdsIn_cons, holds_single]
  refine ⟨⟨_, _, rfl, arranged.suffix, rfl, inside.1, tight⟩, trivial, ?_, inside.2⟩
  intro next _ _
  simp [isTight, arranged.suffix.isTight_eq]

namespace Frames

/-- The items that the next item is put in front of. -/
def front (frames : Frames) : List Item :=
  match frames.opened with
  | [] => frames.outside
  | frame :: _ => frame.operand

/-- All open frames, and the items outside of them, are arranged. -/
structure Arranged (T : Token → Prop) (frames : Frames) : Prop where
  opened : ∀ frame ∈ frames.opened, frame.Arranged T
  outside : Item.Arranged T frames.outside

/-- The next item may be a tight operator. -/
def Ready (frames : Frames) : Prop := ∀ item ∈ frames.front.head?, item.isMoved = false

theorem arranged_empty : empty.Arranged T := ⟨List.forall_mem_nil _, arranged_nil⟩

/-- Groups that arrive from closed frames, in front of a list of items. -/
structure Arriving (T : Token → Prop) (arrived : List Item) : Prop where
  arranged : Item.Arranged T arrived
  grouped : ∀ item ∈ arrived, item.isOperator = false

theorem Arriving.append {arrived rest : List Item} (arriving : Arriving T arrived)
    (arranged : Item.Arranged T rest) : Item.Arranged T (arrived ++ rest) := by
  refine ⟨among_append.mpr ⟨arriving.arranged.1, arranged.1⟩,
    holdsIn_append.mpr ⟨arriving.arranged.2, arranged.2, ?_⟩⟩
  intro left last _ _ _
  have plain := arriving.grouped left (List.mem_of_getLast? last)
  cases left with
  | single token =>
      rw [Item.isOperator] at plain
      rw [Item.isTight, plain, Bool.false_and]
  | group => rfl

theorem Arriving.tightIn {arrived rest : List Item} (arriving : Arriving T arrived)
    (tight : TightIn rest) : TightIn (arrived ++ rest) := by
  refine among_append.mpr ⟨fun token member operator => ?_, tight⟩
  have plain := arriving.grouped _ member
  simp [Item.isOperator, operator] at plain

theorem arriving_nil : Arriving T [] := ⟨arranged_nil, List.forall_mem_nil _⟩

theorem Arriving.relocated {frame : Frame} {arrived : List Item} (arriving : Arriving T arrived)
    (arranged : frame.Arranged T) :
    Arriving T [frame.relocated (arrived ++ frame.operand)] := by
  refine ⟨arranged_nil.cons ?_ ?_ (fun _ head => absurd head (Option.not_mem_none _)), ?_⟩
  · intro token same
    cases same
  · exact arranged.holds_relocated (arriving.append arranged.operand)
      (arriving.tightIn arranged.tight)
  · intro item member
    obtain rfl := List.mem_singleton.mp member
    rfl

/-- A tight operator goes to the innermost frame, where no moved suffix may stand
in front. Any other item may pass frames on its way. -/
theorem arranged_place {item : Item} {outside arrived : List Item} {frames : List Frame}
    (token : ∀ token, item = .single token → T token) (inside : Holds (WellGrouped T) Clear item)
    (unmoved : item.isMoved = false) (arriving : Arriving T arrived)
    (ready : item.isTight = true → arrived = [] ∧ Ready ⟨frames, outside⟩)
    (arranged : Arranged T ⟨frames, outside⟩) :
    (place item outside arrived frames).Arranged T ∧ (place item outside arrived frames).Ready := by
  have seam : ∀ rest : List Item, rest = (⟨frames, outside⟩ : Frames).front →
      ∀ next ∈ (arrived ++ rest).head?, Clear item next := by
    rintro rest rfl next head moved
    cases tight : item.isTight with
    | false => rfl
    | true =>
        obtain ⟨rfl, clear⟩ := ready tight
        rw [clear next head] at moved
        cases moved
  have front : ∀ item' ∈ (item :: (arrived ++ (⟨frames, outside⟩ : Frames).front)).head?,
      item'.isMoved = false := by
    intro other head
    cases head
    exact unmoved
  induction frames generalizing arrived with
  | nil =>
      refine ⟨⟨List.forall_mem_nil _, ?_⟩, front⟩
      exact (arriving.append arranged.outside).cons token inside (seam outside rfl)
  | cons frame frames ih =>
      have top := arranged.opened frame List.mem_cons_self
      have others : Arranged T ⟨frames, outside⟩ :=
        ⟨fun other member => arranged.opened other (List.mem_cons_of_mem _ member),
          arranged.outside⟩
      have whole := (arriving.append top.operand).cons token inside (seam frame.operand rfl)
      have absorbed : ∀ complete, (item.isOperator = true → item.isTight = true) →
          Arranged T ⟨⟨frame.suffix, item :: (arrived ++ frame.operand), complete⟩ :: frames,
            outside⟩ := by
        intro complete joins
        refine ⟨fun other member => ?_, arranged.outside⟩
        rcases List.mem_cons.mp member with rfl | later
        · exact ⟨top.suffix, whole, (arriving.tightIn top.tight).cons joins⟩
        · exact others.opened other later
      have passed : item.isTight = false →
          (place item outside [frame.relocated (arrived ++ frame.operand)] frames).Arranged T ∧
            (place item outside [frame.relocated (arrived ++ frame.operand)] frames).Ready := by
        intro loose
        refine ih (arriving.relocated top) (by simp [loose]) others ?_ ?_
        · intro rest _ next _ _
          exact loose
        · intro other head
          cases head
          exact unmoved
      rw [place, bindsTighterThan_eq_isTight top.suffix]
      by_cases operator : item.isOperator = true
      · rw [if_pos operator]
        by_cases tight : item.isTight = true
        · rw [if_pos tight]
          exact ⟨absorbed false fun _ => tight, front⟩
        · rw [if_neg tight]
          exact passed (Bool.eq_false_iff.mpr tight)
      · rw [if_neg operator]
        split
        · exact passed (isTight_of_operand (Bool.eq_false_iff.mpr operator))
        · exact ⟨absorbed true fun known => absurd known operator, front⟩

theorem Arranged.settle {frames : Frames} (arranged : frames.Arranged T) :
    frames.settle.Arranged T := by
  obtain ⟨opened, outside⟩ := frames
  unfold Frames.settle
  match opened with
  | [] => exact arranged
  | frame :: frames =>
      have top := arranged.opened frame List.mem_cons_self
      have group : Arriving T [frame.relocated frame.operand] := arriving_nil.relocated top
      simp only
      split
      · match frames with
        | [] => exact ⟨List.forall_mem_nil _, group.append arranged.outside⟩
        | next :: others =>
            have below := arranged.opened next (by simp)
            refine ⟨fun other member => ?_, arranged.outside⟩
            rcases List.mem_cons.mp member with rfl | later
            · exact ⟨below.suffix, group.append below.operand, group.tightIn below.tight⟩
            · exact arranged.opened other (by simp [later])
      · exact arranged

theorem Arranged.push {frames : Frames} (arranged : frames.Arranged T) {token : Token}
    (pending : token.isPendingSuffix = true) :
    (frames.push token).Arranged T ∧ (frames.push token).Ready := by
  refine ⟨⟨fun other member => ?_, arranged.outside⟩,
    fun _ head => absurd head (Option.not_mem_none _)⟩
  rcases List.mem_cons.mp member with rfl | later
  · exact ⟨Token.isMovedSuffix_suffixed pending, arranged_nil, among_nil⟩
  · exact arranged.opened other later

theorem arranged_finish {outside arrived : List Item} {frames : List Frame}
    (arriving : Arriving T arrived) (arranged : Arranged T ⟨frames, outside⟩) :
    Item.Arranged T (finish outside arrived frames) := by
  induction frames generalizing arrived with
  | nil => exact arriving.append arranged.outside
  | cons frame frames ih =>
      exact ih (arriving.relocated (arranged.opened frame List.mem_cons_self))
        ⟨fun other member => arranged.opened other (List.mem_cons_of_mem _ member),
          arranged.outside⟩

theorem Arranged.items {frames : Frames} (arranged : frames.Arranged T) :
    Item.Arranged T frames.items := arranged_finish arriving_nil arranged

end Frames

namespace Item

/-- An item as it is before suffixes move: all groups have a bracket, and all
tokens but the suffixes have the given property. -/
def Raw (T : Token → Prop) : Item → Prop
  | .single token => token.isPendingSuffix = false → T token
  | .group bracket _ _ => bracket.isSome = true

theorem Raw.bracketed {item : Item} (raw : item.Raw T) : item.Bracketed := by
  cases item with
  | single => trivial
  | group => exact raw

variable {limit depth : Nat}

/-- Gathering arranges all items. -/
theorem arranged_of_gather {items : List Item} {frames : Frames}
    (raw : HoldsIn (Raw T) (fun _ _ => True) items)
    (gathered : gather limit depth items = .ok frames) : frames.Arranged T := by
  refine (gather_induction (P := fun items frames =>
    HoldsIn (Raw T) (fun _ _ => True) items → frames.Arranged T ∧ frames.Ready)
    ?nil ?suffix ?single ?group items depth frames gathered raw).1
  case nil =>
    exact fun _ => ⟨Frames.arranged_empty, fun _ head => absurd head (Option.not_mem_none _)⟩
  case suffix =>
    intro token rest frames pending ih raw
    exact (ih (holdsIn_cons.mp raw).2.2).1.settle.push pending
  case single =>
    intro token rest frames placed ih raw
    obtain ⟨front, -, later⟩ := holdsIn_cons.mp raw
    obtain ⟨arranged, ready⟩ := ih later
    refine Frames.arranged_place ?_ trivial rfl Frames.arriving_nil (fun _ => ⟨rfl, ready⟩) arranged
    rintro other ⟨⟩
    exact holds_single.mp front placed
  case group =>
    intro bracket position inner innerFrames rest frames innerIh ih raw
    obtain ⟨front, -, later⟩ := holdsIn_cons.mp raw
    obtain ⟨named, inside⟩ := holds_group.mp front
    obtain ⟨name, rfl⟩ := Option.isSome_iff_exists.mp named
    obtain ⟨arranged, ready⟩ := ih later
    have content := (innerIh inside).1.items
    refine Frames.arranged_place ?_ (holds_group.mpr content) rfl Frames.arriving_nil
      (fun _ => ⟨rfl, ready⟩) arranged
    intro token same
    cases same

end Item

end Calculator
