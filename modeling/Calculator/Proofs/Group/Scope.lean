import Calculator.Group.Product
import Calculator.Proofs.Group.Arrangement

/-!
# What a moved suffix applies to

Moving suffix operators rearranges a group and loses nothing, and every suffix gets
the operand that belongs to it: only operators that bind tighter stand in the
operand, no such operator is left out on its left, and a value directly before the
suffix is in it (`Item.Rearranged`, `Group.rearranged_of_relocateSuffixes`).

For the last part an item that is taken in is followed to its spot. It goes to the
left end of an operand, inside of groups that all stand at the left end of what they
are in (`Item.Enters`), so that only what is right behind that spot gets a new item
directly before it.
-/

namespace Calculator

namespace Item

/-- An item as it is before suffixes move: all groups have a bracket, and an operator
has no position unless it stands before its operand, which a suffix does not. -/
def Unmoved : Item → Prop
  | .single token => token.kind = .operator →
    token.fixity = none ∨ token.fixity = some .prefixed ∧ Operator.isSuffixed token.lexeme = false
  | .group bracket _ _ => bracket.isSome = true

/-- No suffix operator stands directly among the items. -/
def SuffixFree (items : List Item) : Prop :=
  Among (fun token => token.kind = .operator → Operator.isSuffixed token.lexeme = false) items

/-- A group without a bracket has a moved suffix in front, and of the other tokens in
it those that are operators are no suffixes and bind tighter than it. No suffix
stands in a group with a bracket. -/
def Scoped : Item → Prop
  | .single _ => True
  | .group (some _) _ items => SuffixFree items
  | .group none position items => ∃ suffix operand, items = .single suffix :: operand ∧
      suffix.IsMovedSuffix ∧ position = suffix.position ∧ SuffixFree operand ∧
      Among (fun token => token.kind = .operator →
        Operator.bindsTighter (some token) (some suffix) = true) operand

/-- The item on the left is no operator that belongs into the group on the right. -/
def Stops (left right : Item) : Prop :=
  ∀ position suffix operand, right = .group none position (.single suffix :: operand) →
    left.bindsTighterThan suffix = false

mutual

/-- A value directly before a moved suffix is in its operand, for all suffixes in an
item. In front are the items that stood before this one, at the same level. -/
def Attached (front : List Item) : Item → Prop
  | .single _ => True
  | .group (some _) _ items => AttachedIn [] items
  | .group none _ [] => True
  | .group none _ (_ :: operand) =>
    (∀ value ∈ (front ++ restoredIn operand).getLast?, value.endsValue = true →
      operand ≠ [] ∧ value ∈ (restoredIn operand).getLast?) ∧ AttachedIn front operand

/-- The same for several items. -/
def AttachedIn (front : List Item) : List Item → Prop
  | [] => True
  | item :: rest => item.Attached front ∧ AttachedIn (front ++ item.restored) rest

end

/-- The items that become of others when every suffix moves in front of its operand:
nothing is lost, suffixes stand in front of groups of their own and nowhere else, and
these groups have the right extent. -/
structure Rearranged (original moved : List Item) : Prop where
  restored : restoredIn moved = original
  free : SuffixFree moved
  grouped : HoldsIn Scoped Stops moved
  attached : AttachedIn [] moved

theorem Unmoved.raw {item : Item} (unmoved : item.Unmoved) :
    item.Raw fun token => token.kind = .operator → Operator.isSuffixed token.lexeme = false := by
  cases item with
  | group => exact unmoved
  | single token =>
      intro placed operator
      rcases unmoved operator with plain | ⟨-, free⟩
      · simpa [Token.isPendingSuffix, operator, plain] using placed
      · exact free

/-- What is tight binds tighter than the suffix in front. -/
theorem scoped_of_wellGrouped {item : Item}
    (grouped : item.WellGrouped fun token =>
      token.kind = .operator → Operator.isSuffixed token.lexeme = false) : item.Scoped := by
  match item with
  | .single _ => trivial
  | .group (some _) _ _ => exact grouped
  | .group none _ _ =>
      obtain ⟨suffix, operand, same, moved, place, free, tight⟩ := grouped
      refine ⟨suffix, operand, same, moved, place, free, fun token member operator => ?_⟩
      rw [Operator.bindsTighter_suffixed _ _ moved.2.1 moved.2.2]
      exact tight token member operator

theorem Clear.stops {T : Token → Prop} {left right : Item} (grouped : right.WellGrouped T)
    (clear : Clear left right) : Stops left right := by
  rintro position suffix operand rfl
  obtain ⟨suffix, operand, same, moved, -⟩ := grouped
  cases same
  rw [bindsTighterThan_eq_isTight moved]
  exact clear rfl

section Attachment

@[simp] theorem attachedIn_nil {front : List Item} : AttachedIn front [] := trivial

theorem attachedIn_cons {front : List Item} {item : Item} {rest : List Item} :
    AttachedIn front (item :: rest) ↔
      item.Attached front ∧ AttachedIn (front ++ item.restored) rest := by
  rw [AttachedIn]

@[simp] theorem attached_single {front : List Item} {token : Token} :
    Attached front (.single token) := trivial

@[simp] theorem attached_group {front : List Item} {bracket : String} {position : Int}
    {items : List Item} : Attached front (.group (some bracket) position items) ↔
      AttachedIn [] items := by
  rw [Attached]

theorem attached_moved {front : List Item} {position : Int} {suffix : Item}
    {operand : List Item} : Attached front (.group none position (suffix :: operand)) ↔
      (∀ value ∈ (front ++ restoredIn operand).getLast?, value.endsValue = true →
        operand ≠ [] ∧ value ∈ (restoredIn operand).getLast?) ∧ AttachedIn front operand := by
  rw [Attached]

/-- A suffix has a value in its operand if the items of that are given. -/
theorem endsIn_of_ne_nil (front : List Item) {operand : List Item}
    (given : restoredIn operand ≠ []) :
    ∀ value ∈ (front ++ restoredIn operand).getLast?, value.endsValue = true →
      operand ≠ [] ∧ value ∈ (restoredIn operand).getLast? := by
  intro value last _
  rw [List.getLast?_append_of_ne_nil _ given] at last
  refine ⟨?_, last⟩
  rintro rfl
  exact given restoredIn_nil

mutual

/-- Only the last of the items in front matters, and only if it is a value. -/
theorem Attached.imp {front other : List Item} (ends : ∀ value ∈ other.getLast?,
    value.endsValue = true → value ∈ front.getLast?) :
    ∀ {item : Item}, Attached front item → Attached other item
  | .single _, _ => trivial
  | .group (some _) _ _, attached => attached
  | .group none _ [], _ => by rw [Attached]; trivial
  | .group none _ (suffix :: operand), attached => by
      obtain ⟨ended, inside⟩ := attached_moved.mp attached
      refine attached_moved.mpr ⟨?_, AttachedIn.imp ends inside⟩
      by_cases given : restoredIn operand = []
      · intro value last valued
        rw [given, List.append_nil] at last
        refine ended value ?_ valued
        rw [given, List.append_nil]
        exact ends value last valued
      · exact endsIn_of_ne_nil other given

theorem AttachedIn.imp {front other : List Item} (ends : ∀ value ∈ other.getLast?,
    value.endsValue = true → value ∈ front.getLast?) :
    ∀ {items : List Item}, AttachedIn front items → AttachedIn other items
  | [], _ => trivial
  | item :: rest, attached => by
      obtain ⟨first, later⟩ := attachedIn_cons.mp attached
      refine attachedIn_cons.mpr ⟨Attached.imp ends first, AttachedIn.imp ?_ later⟩
      intro value last valued
      by_cases given : item.restored = []
      · rw [given, List.append_nil] at last ⊢
        exact ends value last valued
      · rwa [List.getLast?_append_of_ne_nil _ given] at last ⊢

end

end Attachment

/-- An item enters others: it is put in front of what is at its spot, either of all of
them or of the operand of a moved suffix that stands in front. -/
inductive Enters (item : Item) (spot : List Item) : (before after : List Item) → Prop
  | here : Enters item spot spot (item :: spot)
  | inside {before after : List Item} (suffix : Token) (rest : List Item)
      (entered : Enters item spot before after) :
      Enters item spot (.group none suffix.position (.single suffix :: before) :: rest)
        (.group none suffix.position (.single suffix :: after) :: rest)

namespace Enters

variable {item : Item} {spot before after : List Item}

theorem restoredIn (entered : Enters item spot before after) :
    Item.restoredIn after = item.restored ++ Item.restoredIn before := by
  induction entered with
  | here => exact restoredIn_cons item spot
  | inside suffix rest _ ih => simp [Item.restored, moveBack, ih]

/-- What is at the spot has the same items in front as the whole. -/
theorem attachedIn_spot (entered : Enters item spot before after) {front : List Item}
    (attached : AttachedIn front before) : AttachedIn front spot := by
  induction entered with
  | here => exact attached
  | inside suffix rest _ ih => exact ih (attached_moved.mp (attachedIn_cons.mp attached).1).2

/-- An item may enter if its last part is no value in front of an empty operand. -/
theorem attachedIn (entered : Enters item spot before after) {front : List Item}
    (given : item.restored ≠ []) (attached : item.Attached front)
    (seam : AttachedIn (front ++ item.restored) spot) (already : AttachedIn [] before) :
    AttachedIn front after := by
  induction entered with
  | here => exact attachedIn_cons.mpr ⟨attached, seam⟩
  | inside suffix rest entered ih =>
      obtain ⟨first, later⟩ := attachedIn_cons.mp already
      have inside := ih (attached_moved.mp first).2
      refine attachedIn_cons.mpr ⟨attached_moved.mpr ⟨?_, inside⟩, later.imp ?_⟩
      · refine endsIn_of_ne_nil front ?_
        simp [entered.restoredIn, given]
      · intro value last _
        simpa [Item.restored, moveBack, entered.restoredIn] using last

end Enters

end Item

open Item

namespace Frames

/-- What enters the operand of a frame enters all items. -/
theorem enters_finish {item : Item} {spot before after : List Item} (outside : List Item)
    (entered : Enters item spot before after) (frame : Frame) (frames : List Frame) :
    Enters item spot (finish outside [frame.relocated before] frames)
      (finish outside [frame.relocated after] frames) := by
  induction frames generalizing frame before after with
  | nil => exact .inside frame.suffix outside entered
  | cons next frames ih => exact ih (.inside frame.suffix next.operand entered) next

/-- The innermost frame has no operand yet. -/
def Bare (frames : Frames) : Prop :=
  ∃ suffix others, frames.opened = ⟨suffix, [], false⟩ :: others

theorem enters_place (item : Item) (outside arrived : List Item) (frames : List Frame) :
    ∃ spot, Enters item spot (finish outside arrived frames)
      (place item outside arrived frames).items := by
  induction frames generalizing arrived with
  | nil => exact ⟨_, .here⟩
  | cons frame frames ih =>
      have absorbed : ∀ complete, ∃ spot, Enters item spot
          (finish outside arrived (frame :: frames))
          (⟨⟨frame.suffix, item :: (arrived ++ frame.operand), complete⟩ :: frames,
            outside⟩ : Frames).items := fun complete =>
        ⟨_, enters_finish outside .here frame frames⟩
      rw [place]
      split
      · split
        · exact absorbed false
        · exact ih _
      · split
        · exact ih _
        · exact absorbed true

/-- What is given to the frames enters the items. An operand that is waited for takes
any item that is no operator. -/
theorem enters_insert (item : Item) (frames : Frames) :
    ∃ spot, Enters item spot frames.items (frames.insert item).items ∧
      (frames.Bare → item.isOperator = false → spot = []) := by
  obtain ⟨opened, outside⟩ := frames
  by_cases taken : Bare ⟨opened, outside⟩ ∧ item.isOperator = false
  · obtain ⟨⟨suffix, others, rfl⟩, operand⟩ := taken
    refine ⟨[], ?_, fun _ _ => rfl⟩
    have placed : insert item ⟨⟨suffix, [], false⟩ :: others, outside⟩ =
        ⟨⟨suffix, [item], true⟩ :: others, outside⟩ := by
      simp [insert, place, operand]
    rw [placed]
    exact enters_finish outside .here ⟨suffix, [], false⟩ others
  · obtain ⟨spot, entered⟩ := enters_place item outside [] opened
    exact ⟨spot, entered, fun bare operand => absurd ⟨bare, operand⟩ taken⟩

theorem settle_of_bare {frames : Frames} (bare : frames.Bare) :
    frames.settle = frames := by
  obtain ⟨suffix, others, opened⟩ := bare
  simp [settle, opened]

/-- It makes no difference when a frame closes. -/
theorem items_settle (frames : Frames) : frames.settle.items = frames.items := by
  obtain ⟨opened, outside⟩ := frames
  unfold settle
  match opened with
  | [] => rfl
  | [frame] =>
      simp only
      split <;> rfl
  | frame :: next :: others =>
      simp only
      split <;> rfl

/-- The group of a suffix without an operand enters the items, in front of the
innermost operand. -/
theorem enters_push (token : Token) (frames : Frames) :
    ∃ spot, Enters (Frame.relocated ⟨token.suffixed, [], false⟩ []) spot frames.items
      (frames.push token).items ∧ (frames.Bare → spot = []) := by
  obtain ⟨opened, outside⟩ := frames
  cases opened with
  | nil =>
      refine ⟨outside, .here, ?_⟩
      rintro ⟨_, _, opened⟩
      cases opened
  | cons frame others =>
      refine ⟨frame.operand, enters_finish outside .here frame others, ?_⟩
      rintro ⟨_, _, opened⟩
      cases opened
      rfl

/-- Every suffix that has been met has the value directly before it in its operand, and
the innermost one has no operand yet unless nothing in front can be missed. -/
structure Attached (frames : Frames) : Prop where
  items : AttachedIn [] frames.items
  bare : frames.Bare ∨ ∀ front, AttachedIn front frames.items

theorem attached_empty : empty.Attached := ⟨trivial, .inr fun _ => trivial⟩

theorem Attached.insert {frames : Frames} (attached : frames.Attached) {item : Item}
    (given : item.restored ≠ []) (inside : ∀ front, item.Attached front)
    (seam : item.isOperator = true → ∀ value ∈ item.restored.getLast?, value.endsValue = false) :
    (frames.insert item).Attached := by
  obtain ⟨spot, entered, taken⟩ := enters_insert item frames
  have behind : ∀ front, AttachedIn (front ++ item.restored) spot := by
    intro front
    rcases attached.bare with bare | all
    · cases operator : item.isOperator with
      | false =>
          rw [taken bare operator]
          trivial
      | true =>
          refine (entered.attachedIn_spot attached.items).imp fun value last valued => ?_
          rw [List.getLast?_append_of_ne_nil _ given] at last
          rw [seam operator value last] at valued
          cases valued
    · exact entered.attachedIn_spot (all _)
  have whole : ∀ front, AttachedIn front (frames.insert item).items := fun front =>
    entered.attachedIn given (inside front) (behind front) attached.items
  exact ⟨whole [], .inr whole⟩

theorem Attached.push {frames : Frames} (attached : frames.Attached) (token : Token) :
    (frames.settle.push token).Attached := by
  obtain ⟨spot, entered, taken⟩ := enters_push token frames.settle
  rw [items_settle] at entered
  refine ⟨?_, .inl ⟨_, _, rfl⟩⟩
  have lone : Item.Attached [] (Frame.relocated ⟨token.suffixed, [], false⟩ []) :=
    attached_moved.mpr ⟨fun value last => absurd last (Option.not_mem_none value), trivial⟩
  refine entered.attachedIn (by simp [Frame.restored_relocated]) lone ?_ attached.items
  rcases attached.bare with bare | all
  · rw [taken (by rwa [settle_of_bare bare])]
    trivial
  · exact entered.attachedIn_spot (all _)

end Frames

namespace Item

variable {limit depth : Nat}

theorem attached_of_gather {items : List Item} {frames : Frames}
    (unmoved : HoldsIn Unmoved (fun _ _ => True) items)
    (gathered : gather limit depth items = .ok frames) : frames.Attached := by
  refine gather_induction (P := fun items frames =>
    HoldsIn Unmoved (fun _ _ => True) items → frames.Attached)
    ?nil ?suffix ?single ?group items depth frames gathered unmoved
  case nil => exact fun _ => Frames.attached_empty
  case suffix =>
    intro token rest frames _ ih unmoved
    exact (ih (holdsIn_cons.mp unmoved).2.2).push token
  case single =>
    intro token rest frames placed ih unmoved
    obtain ⟨front, -, later⟩ := holdsIn_cons.mp unmoved
    refine (ih later).insert (by simp) (fun _ => trivial) fun operator value last => ?_
    obtain rfl : .single token = value := by simpa using last
    have known : token.kind = .operator := by simpa [isOperator] using operator
    simpa [endsValue, known] using (holds_single.mp front).raw placed known
  case group =>
    intro bracket position inner innerFrames rest frames innerIh ih unmoved
    obtain ⟨front, -, later⟩ := holdsIn_cons.mp unmoved
    obtain ⟨named, inside⟩ := holds_group.mp front
    obtain ⟨name, rfl⟩ := Option.isSome_iff_exists.mp named
    refine (ih later).insert (by simp [restored]) (fun _ => ?_) fun operator => ?_
    · exact attached_group.mpr (innerIh inside).items
    · cases operator

end Item

/-- **Moving suffixes is a lossless rearrangement with the right scope.** Let all
groups inside a group have a bracket, and let its operators have no position, or stand
before their operand and be no suffixes. What becomes of the group when its suffixes
move has the same bracket and place, gives back the group when they go back behind
their operands, has suffixes nowhere but in front of groups of their own, and every
suffix applies to as much as belongs to it. -/
theorem Group.rearranged_of_relocateSuffixes {config : Config} {group moved : Group}
    (unmoved : HoldsIn Unmoved (fun _ _ => True) group.items)
    (relocated : group.relocateSuffixes config = .ok moved) :
    moved.bracket = group.bracket ∧ moved.position = group.position ∧
      Rearranged group.items moved.items := by
  obtain ⟨frames, gathered, rfl⟩ := exists_of_map relocated
  have raw := unmoved.imp (fun _ => Unmoved.raw) fun _ _ related => related
  have arranged := (arranged_of_gather raw gathered).items
  refine ⟨rfl, rfl, ?_, arranged.1, ?_, (attached_of_gather unmoved gathered).items⟩
  · rw [Frames.restoredIn_items]
    exact restored_of_gather (raw.imp (fun _ => Raw.bracketed) fun _ _ related => related) gathered
  · exact arranged.2.imp_near (fun _ => scoped_of_wellGrouped)
      fun _ _ _ grouped => Clear.stops grouped

/-- A power is held together by the suffix behind it, which another suffix follows; a
suffix with no operand stays alone. -/
theorem Group.rearranged_of_relocateSuffixes_power :
    let number (n position : Nat) : Token :=
      ⟨.number, toString n, some (.number (.int n)), position, none, false⟩
    let power : Token := ⟨.operator, "^", none, 4, none, false⟩
    let mark (position : Nat) : Token := ⟨.operator, "!", none, position, none, false⟩
    let group : Group := ⟨[.group (some "(") 0 [.single (mark 1), .single (number 2 2)],
      .single power, .single (number 3 5), .single (mark 6), .single (mark 7)], none, -1⟩
    let alone : Item := .group none 1 [.single (mark 1).suffixed]
    let inner : Item := .group none 6 [.single (mark 6).suffixed,
      .group (some "(") 0 [alone, .single (number 2 2)], .single power, .single (number 3 5)]
    let moved : Group := ⟨[.group none 7 [.single (mark 7).suffixed, inner]], none, -1⟩
    HoldsIn Unmoved (fun _ _ => True) group.items ∧
      group.relocateSuffixes .standard = .ok moved ∧ Rearranged group.items moved.items := by
  intro number power mark group alone inner moved
  have unmoved : HoldsIn Unmoved (fun _ _ => True) group.items := by
    simp [group, number, power, mark, holdsIn_cons, Unmoved]
  have relocated : group.relocateSuffixes .standard = .ok moved := by cbv
  exact ⟨unmoved, relocated, (rearranged_of_relocateSuffixes unmoved relocated).2.2⟩

end Calculator
