import Calculator.Proofs.Group.Spacing

/-!
# Where items come from

The items that trees are built from hold tokens of the text, apart from the products that
were put in (`Item.Rooted`). Such a product never lacks an operand: a complete operand stands
directly before it, at every level, and it is not the last of the items
(`Item.grounded_of_gather`). It keeps its neighbours when suffixes move, for it binds looser
than every suffix: it closes all frames, and what stands behind it becomes an operand or a
group.
-/

namespace Calculator

/-- A token that stands where one of the given tokens does and is spelled like it, or is the
negation that a sign turned into. -/
def Token.StemsFrom (tokens : List Token) (token : Token) : Prop :=
  ∃ origin ∈ tokens, token.position = origin.position ∧
    (token.lexeme = origin.lexeme ∨ (token.lexeme = "negate" ∧ origin.lexeme = "-"))

variable {tokens : List Token}

theorem Token.stemsFrom_of_mem {token : Token} (member : token ∈ tokens) :
    token.StemsFrom tokens := ⟨token, member, rfl, .inl rfl⟩

theorem Token.StemsFrom.isSynthetic {token : Token} (stems : token.StemsFrom tokens)
    (placed : ∀ token ∈ tokens, 0 ≤ token.position) : token.isSynthetic = false := by
  obtain ⟨origin, member, position, -⟩ := stems
  rw [Token.isSynthetic, position]
  exact decide_eq_false (Int.not_lt.mpr (placed origin member))

namespace Item

/-- Whether an item is a product that was put in. -/
def isImplied : Item → Bool
  | .single token => token.isSynthetic
  | .group .. => false

/-- Items at neither end of which a product was put in. -/
def Flanked (items : List Item) : Prop :=
  (∀ item ∈ items.head?, item.isImplied = false) ∧ ∀ item ∈ items.getLast?, item.isImplied = false

/-- A token of the text or a product that was put in; a group with a bracket of the text; or
the group of a moved suffix. -/
def Rooted (tokens : List Token) : Item → Prop
  | .single token => token = .impliedProduct ∨ token.StemsFrom tokens
  | .group (some bracket) position items =>
    (∃ opener ∈ tokens, opener.IsOpener ∧ opener.lexeme = bracket ∧ opener.position = position) ∧
      Flanked items
  | .group none _ items => items ≠ [] ∧ Flanked items

/-- A product that was put in stands behind a complete operand. -/
def Founded (left right : Item) : Prop := right.isImplied = true → left.endsOperand = true

/-- The same before suffixes move, when a suffix may end the value. -/
def Touched (left right : Item) : Prop := right.isImplied = true → left.endsValue = true

/-- An item as brackets are nested into it. -/
def Read (tokens : List Token) : Item → Prop
  | .single token => token ∈ tokens
  | .group bracket position _ => ∃ opener ∈ tokens, opener.IsOpener ∧
    bracket = some opener.lexeme ∧ position = opener.position

theorem Spells.read {config : Config} {items : List Item} {content : List Token}
    (spells : Spells config items content) (inside : ∀ token ∈ content, token ∈ tokens) :
    HoldsIn (Read tokens) (fun _ _ => True) items := by
  induction spells with
  | nil => exact holdsIn_nil
  | single _ _ ih =>
      refine holdsIn_cons.mpr ⟨holds_single.mpr (inside _ List.mem_cons_self),
        (fun _ _ => trivial), ih fun token member => ?_⟩
      exact inside token (List.mem_cons_of_mem _ member)
  | @group opener closer inner items content behind opens _ _ _ innerIh ih =>
      refine holdsIn_cons.mpr ⟨holds_group.mpr ⟨⟨opener, inside _ List.mem_cons_self, opens, rfl,
        rfl⟩, innerIh fun token member => ?_⟩, (fun _ _ => trivial), ih fun token member => ?_⟩
      · exact inside token (by simp [member])
      · exact inside token (by simp [member])

section Products

variable (placed : ∀ token ∈ tokens, 0 ≤ token.position)

include placed in
theorem isImplied_of_read {item : Item} (read : item.Read tokens) : item.isImplied = false := by
  cases item with
  | single token => exact (Token.stemsFrom_of_mem read).isSynthetic placed
  | group => rfl

@[simp] theorem isImplied_insertProducts (item : Item) :
    item.insertProducts.isImplied = item.isImplied := by
  cases item <;> simp [insertProducts, isImplied]

theorem getLast?_insertProductsIn (items : List Item) :
    (insertProductsIn items).getLast? = items.getLast?.map insertProducts := by
  induction items with
  | nil => rfl
  | cons item rest ih =>
      cases rest with
      | nil => simp [insertProductsIn]
      | cons next others =>
          obtain ⟨behind, shape⟩ :=
            List.head?_eq_some_iff.mp (head?_insertProductsIn (next :: others))
          rw [List.getLast?_cons_cons, ← ih, insertProductsIn, shape]
          split <;> simp only [List.getLast?_cons_cons]

include placed in
theorem flanked_insertProductsIn {items : List Item}
    (read : HoldsIn (Read tokens) (fun _ _ => True) items) : Flanked (insertProductsIn items) := by
  have original : ∀ item ∈ items, item.isImplied = false := by
    intro item member
    obtain ⟨front, back, rfl⟩ := List.append_of_mem member
    have here := (holdsIn_cons.mp (holdsIn_append.mp read).2.1).1
    exact isImplied_of_read placed here.here
  rw [Flanked, head?_insertProductsIn, getLast?_insertProductsIn]
  constructor
  · intro item head
    obtain ⟨first, known, rfl⟩ := Option.map_eq_some_iff.mp head
    rw [isImplied_insertProducts]
    exact original first (List.mem_of_head? known)
  · intro item last
    obtain ⟨final, known, rfl⟩ := Option.map_eq_some_iff.mp last
    rw [isImplied_insertProducts]
    exact original final (List.mem_of_getLast? known)

end Products

mutual

theorem rooted_insertProducts (placed : ∀ token ∈ tokens, 0 ≤ token.position) :
    ∀ {item : Item}, Holds (Read tokens) (fun _ _ => True) item →
      Holds (Rooted tokens) Touched item.insertProducts
  | .single _, read => by
      rw [insertProducts]
      exact holds_single.mpr (.inr (Token.stemsFrom_of_mem (holds_single.mp read)))
  | .group _ _ _, read => by
      obtain ⟨⟨opener, member, opens, rfl, rfl⟩, inside⟩ := holds_group.mp read
      rw [insertProducts, holds_group]
      exact ⟨⟨⟨opener, member, opens, rfl, rfl⟩, flanked_insertProductsIn placed inside⟩,
        rooted_insertProductsIn placed inside⟩

/-- A product is put in behind the end of a value only. -/
theorem rooted_insertProductsIn (placed : ∀ token ∈ tokens, 0 ≤ token.position) :
    ∀ {items : List Item}, HoldsIn (Read tokens) (fun _ _ => True) items →
      HoldsIn (Rooted tokens) Touched (insertProductsIn items)
  | [], _ => trivial
  | item :: rest, read => by
      obtain ⟨front, -, later⟩ := holdsIn_cons.mp read
      have here := rooted_insertProducts placed front
      have behind := rooted_insertProductsIn placed later
      have plain := (flanked_insertProductsIn placed later).1
      rw [insertProductsIn]
      split
      · rename_i touch
        rw [Bool.and_eq_true] at touch
        refine holdsIn_cons.mpr ⟨here, ?_, holdsIn_cons.mpr ⟨.inl rfl, ?_, behind⟩⟩
        · rintro next ⟨⟩ -
          rw [endsValue_insertProducts]
          exact touch.1
        · intro next head implied
          rw [plain next head] at implied
          cases implied
      · refine holdsIn_cons.mpr ⟨here, fun next head implied => ?_, behind⟩
        rw [plain next head] at implied
        cases implied

end

/-- An item that may go into a frame. -/
def Sound (tokens : List Token) (item : Item) : Prop :=
  Holds (Rooted tokens) Founded item ∧ item.isImplied = false

/-- Items of the text in which every product that was put in stands behind an operand and in
front of something. -/
def Grounded (tokens : List Token) (items : List Item) : Prop :=
  HoldsIn (Rooted tokens) Founded items ∧ ∀ item ∈ items.getLast?, item.isImplied = false

theorem grounded_nil : Grounded tokens [] :=
  ⟨holdsIn_nil, fun _ last => absurd last (Option.not_mem_none _)⟩

theorem Grounded.cons {item : Item} {rest : List Item} (grounded : Grounded tokens rest)
    (inside : Holds (Rooted tokens) Founded item) (seam : ∀ next ∈ rest.head?, Founded item next)
    (behind : rest = [] → item.isImplied = false) : Grounded tokens (item :: rest) := by
  refine ⟨holdsIn_cons.mpr ⟨inside, seam, grounded.1⟩, fun last ends => ?_⟩
  cases rest with
  | nil =>
      cases ends
      exact behind rfl
  | cons next others => exact grounded.2 last (by rwa [List.getLast?_cons_cons] at ends)

/-- Operands in front keep items grounded. -/
theorem Grounded.append {front rest : List Item} (grounded : Grounded tokens rest)
    (operands : ∀ item ∈ front, item.Sound tokens ∧ item.endsOperand = true) :
    Grounded tokens (front ++ rest) := by
  induction front with
  | nil => exact grounded
  | cons item front ih =>
      obtain ⟨⟨inside, original⟩, ends⟩ := operands item List.mem_cons_self
      exact (ih fun other member => operands other (List.mem_cons_of_mem _ member)).cons inside
        (fun _ _ _ => ends) fun _ => original

/-- Items none of which was put in. -/
theorem holdsIn_of_sound {items : List Item} (sound : ∀ item ∈ items, item.Sound tokens) :
    HoldsIn (Rooted tokens) Founded items := by
  induction items with
  | nil => exact holdsIn_nil
  | cons item rest ih =>
      refine holdsIn_cons.mpr ⟨(sound item List.mem_cons_self).1, fun next head implied => ?_,
        ih fun other member => sound other (List.mem_cons_of_mem _ member)⟩
      rw [(sound next (List.mem_cons_of_mem _ (List.mem_of_head? head))).2] at implied
      cases implied

/-- A product that was put in is an operator, and no tight one. -/
theorem Rooted.loose (placed : ∀ token ∈ tokens, 0 ≤ token.position) {item : Item}
    (rooted : item.Rooted tokens) (implied : item.isImplied = true) :
    item = impliedProduct := by
  cases item with
  | single token =>
      rcases rooted with rfl | stems
      · rfl
      · rw [isImplied, stems.isSynthetic placed] at implied
        cases implied
  | group => cases implied

theorem isTight_impliedProduct : impliedProduct.isTight = false := by decide

end Item

open Item

/-- A frame whose suffix and whose operand are of the text. -/
structure Frame.Rooted (tokens : List Token) (frame : Frame) : Prop where
  moved : frame.suffix.IsMovedSuffix
  stems : frame.suffix.StemsFrom tokens
  operand : ∀ item ∈ frame.operand, item.Sound tokens

/-- The group that a frame turns into is sound. -/
theorem Frame.Rooted.sound_relocated (placed : ∀ token ∈ tokens, 0 ≤ token.position)
    {frame : Frame} (rooted : frame.Rooted tokens) {operand : List Item}
    (operands : ∀ item ∈ operand, item.Sound tokens) :
    (frame.relocated operand).Sound tokens := by
  have suffix : Item.Sound tokens (.single frame.suffix) :=
    ⟨.inr rooted.stems, rooted.stems.isSynthetic placed⟩
  have all : ∀ item ∈ Item.single frame.suffix :: operand, item.Sound tokens := by
    intro item member
    rcases List.mem_cons.mp member with rfl | inside
    · exact suffix
    · exact operands item inside
  refine ⟨holds_group.mpr ⟨⟨List.cons_ne_nil _ _, fun item head => ?_, fun item last => ?_⟩,
    holdsIn_of_sound all⟩, rfl⟩
  · exact (all item (List.mem_of_head? head)).2
  · exact (all item (List.mem_of_getLast? last)).2

namespace Frames

/-- Frames whose items are of the text; products that were put in are outside of them. -/
structure Rooted (tokens : List Token) (frames : Frames) : Prop where
  opened : ∀ frame ∈ frames.opened, frame.Rooted tokens
  outside : Grounded tokens frames.outside

variable (placed : ∀ token ∈ tokens, 0 ≤ token.position)

theorem rooted_empty : empty.Rooted tokens := ⟨List.forall_mem_nil _, grounded_nil⟩

theorem Rooted.below {frame : Frame} {frames : List Frame} {outside : List Item}
    (rooted : Rooted tokens ⟨frame :: frames, outside⟩) : Rooted tokens ⟨frames, outside⟩ :=
  ⟨fun other member => rooted.opened other (List.mem_cons_of_mem _ member), rooted.outside⟩

include placed in
/-- What has arrived from a frame that is closed is an operand. -/
theorem Rooted.arrived {frame : Frame} {frames : List Frame} {outside arrived : List Item}
    (rooted : Rooted tokens ⟨frame :: frames, outside⟩)
    (operands : ∀ item ∈ arrived, item.Sound tokens ∧ item.endsOperand = true) :
    ∀ item ∈ [frame.relocated (arrived ++ frame.operand)],
      item.Sound tokens ∧ item.endsOperand = true := by
  have top := rooted.opened frame List.mem_cons_self
  intro item member
  obtain rfl := List.mem_singleton.mp member
  refine ⟨top.sound_relocated placed fun other inside => ?_, rfl⟩
  rcases List.mem_append.mp inside with early | late
  · exact (operands other early).1
  · exact top.operand other late

include placed in
/-- An item may be placed if, with nothing that closes in between, a product that was put in
is not placed last, and none stands directly behind an item that is no operand. -/
theorem rooted_place {item : Item} {outside arrived : List Item} {frames : List Frame}
    (inside : Holds (Item.Rooted tokens) Founded item)
    (operands : ∀ item ∈ arrived, item.Sound tokens ∧ item.endsOperand = true)
    (seam : arrived = [] → frames = [] → ∀ next ∈ outside.head?, Founded item next)
    (behind : arrived = [] → frames = [] → outside = [] → item.isImplied = false)
    (rooted : Rooted tokens ⟨frames, outside⟩) :
    (place item outside arrived frames).Rooted tokens := by
  induction frames generalizing arrived with
  | nil =>
      refine ⟨List.forall_mem_nil _, (rooted.outside.append operands).cons inside ?_ ?_⟩
      · cases arrived with
        | nil => exact seam rfl rfl
        | cons first others =>
            rintro next ⟨⟩ implied
            rw [(operands first List.mem_cons_self).1.2] at implied
            cases implied
      · intro none
        obtain ⟨rfl, rfl⟩ := List.append_eq_nil_iff.mp none
        exact behind rfl rfl rfl
  | cons frame frames ih =>
      have top := rooted.opened frame List.mem_cons_self
      have absorbed : item.isImplied = false → ∀ complete, Rooted tokens
          ⟨⟨frame.suffix, item :: (arrived ++ frame.operand), complete⟩ :: frames, outside⟩ := by
        refine fun original complete => ⟨fun other member => ?_, rooted.outside⟩
        rcases List.mem_cons.mp member with rfl | later
        · refine ⟨top.moved, top.stems, fun other member => ?_⟩
          rcases List.mem_cons.mp member with rfl | later
          · exact ⟨inside, original⟩
          rcases List.mem_append.mp later with early | late
          · exact (operands other early).1
          · exact top.operand other late
        · exact rooted.below.opened other later
      have passed :
          (place item outside [frame.relocated (arrived ++ frame.operand)] frames).Rooted tokens :=
        ih (rooted.arrived placed operands) (absurd · (List.cons_ne_nil _ _))
          (absurd · (List.cons_ne_nil _ _)) rooted.below
      rw [place, bindsTighterThan_eq_isTight top.moved]
      by_cases implied : item.isImplied = true
      · obtain rfl := inside.here.loose placed implied
        rw [if_pos (show impliedProduct.isOperator = true from rfl), isTight_impliedProduct,
          if_neg Bool.false_ne_true]
        exact passed
      · have original := Bool.eq_false_iff.mpr implied
        split
        · split
          · exact absorbed original false
          · exact passed
        · split
          · exact passed
          · exact absorbed original true

include placed in
theorem Rooted.settle {frames : Frames} (rooted : frames.Rooted tokens) :
    frames.settle.Rooted tokens := by
  obtain ⟨opened, outside⟩ := frames
  unfold Frames.settle
  match opened with
  | [] => exact rooted
  | frame :: frames =>
      have group : ∀ item ∈ [frame.relocated ([] ++ frame.operand)],
          item.Sound tokens ∧ item.endsOperand = true :=
        rooted.arrived placed (List.forall_mem_nil _)
      rw [List.nil_append] at group
      simp only
      split
      · match frames with
        | [] => exact ⟨List.forall_mem_nil _, rooted.outside.append group⟩
        | next :: others =>
            have below := rooted.opened next (by simp)
            refine ⟨fun other member => ?_, rooted.outside⟩
            rcases List.mem_cons.mp member with rfl | later
            · refine ⟨below.moved, below.stems, fun item member => ?_⟩
              rcases List.mem_cons.mp member with rfl | inside
              · exact (group _ List.mem_cons_self).1
              · exact below.operand item inside
            · exact rooted.opened other (by simp [later])
      · exact rooted

theorem Rooted.push {frames : Frames} (rooted : frames.Rooted tokens) {token : Token}
    (pending : token.isPendingSuffix = true) (stems : token.StemsFrom tokens) :
    (frames.push token).Rooted tokens := by
  refine ⟨fun frame member => ?_, rooted.outside⟩
  rcases List.mem_cons.mp member with rfl | later
  · exact ⟨Token.isMovedSuffix_suffixed pending, stems, List.forall_mem_nil _⟩
  · exact rooted.opened frame later

include placed in
theorem grounded_finish {outside arrived : List Item} {frames : List Frame}
    (operands : ∀ item ∈ arrived, item.Sound tokens ∧ item.endsOperand = true)
    (first : arrived = [] → frames = [] → ∀ item ∈ outside.head?, item.isImplied = false)
    (rooted : Rooted tokens ⟨frames, outside⟩) :
    Grounded tokens (finish outside arrived frames) ∧
      ∀ item ∈ (finish outside arrived frames).head?, item.isImplied = false := by
  induction frames generalizing arrived with
  | nil =>
      refine ⟨rooted.outside.append operands, fun item head => ?_⟩
      cases arrived with
      | nil => exact first rfl rfl item head
      | cons other others =>
          cases head
          exact (operands item List.mem_cons_self).1.2
  | cons frame frames ih =>
      exact ih (rooted.arrived placed operands) (absurd · (List.cons_ne_nil _ _)) rooted.below

end Frames

namespace Item

variable {limit depth : Nat} (placed : ∀ token ∈ tokens, 0 ≤ token.position)

/-- An item before suffixes move, with the part that its token plays. -/
def Ready (tokens : List Token) (item : Item) : Prop :=
  item.Rooted tokens ∧ item.Raw Token.IsArrangeable

/-- What is known of the frames that items are gathered into. -/
structure Gathered (tokens : List Token) (items : List Item) (frames : Frames) : Prop where
  rooted : frames.Rooted tokens
  /-- With no frame open, a product in front is one that came last. -/
  first : frames.opened = [] → ∀ item ∈ frames.outside.head?, item.isImplied = true →
    ∃ next ∈ items.head?, next.isImplied = true
  nonempty : items ≠ [] → frames.opened = [] → frames.outside ≠ []

/-- Where a product was put in, an item that does not open a frame ends an operand. -/
theorem founded_of_touched {item next : Item} (raw : item.Raw Token.IsArrangeable)
    (plain : ∀ token, item = .single token → token.isPendingSuffix = false)
    (touched : Touched item next) : Founded item next := by
  intro implied
  have ends := touched implied
  cases item with
  | group => rfl
  | single token =>
      rcases raw (plain token rfl) with number | ⟨operator, -, name⟩ | ⟨operator, -, between⟩
      · simp [endsOperand, number]
      · simp [endsValue, operator, Operator.isSuffixed_of_isName name] at ends
      · simp only [endsValue, operator, beq_self_eq_true, Bool.true_and] at ends
        rw [show (TokenKind.operator == TokenKind.number) = false from rfl, Bool.false_or] at ends
        rw [Operator.isInfixed_eq_false ends] at between
        cases between

include placed in
/-- An item that opens no frame is placed. -/
theorem Gathered.insert {items : List Item} {frames : Frames}
    (gathered : Gathered tokens items frames) {item placedItem : Item}
    (inside : Holds (Rooted tokens) Founded placedItem)
    (same : placedItem.isImplied = item.isImplied)
    (seam : ∀ next ∈ items.head?, next.isImplied = true → placedItem.endsOperand = true)
    (behind : items = [] → item.isImplied = false) :
    Gathered tokens (item :: items) (frames.insert placedItem) := by
  obtain ⟨opened, outside⟩ := frames
  have front : (Frames.insert placedItem ⟨opened, outside⟩).front.head? = some placedItem :=
    Frames.head?_front_place _ _ _ _
  refine ⟨Frames.rooted_place placed inside (List.forall_mem_nil _) ?_ ?_ gathered.rooted, ?_, ?_⟩
  · rintro - rfl next head implied
    obtain ⟨following, known, original⟩ := gathered.first rfl next head implied
    exact seam following known original
  · rintro - rfl rfl
    rw [same]
    apply behind
    by_contra nonempty
    exact gathered.nonempty nonempty rfl rfl
  · intro closed first head implied
    rw [Frames.front, closed] at front
    obtain rfl : placedItem = first := Option.some.inj (front.symm.trans head)
    exact ⟨item, rfl, same ▸ implied⟩
  · intro _ closed none
    rw [Frames.front, closed, none] at front
    cases front

include placed in
/-- When all frames are closed, no product that was put in stands at an end. -/
theorem Gathered.grounded {items : List Item} {frames : Frames}
    (gathered : Gathered tokens items frames) (flanked : Flanked items) :
    Grounded tokens frames.items ∧ Flanked frames.items := by
  have front : frames.opened = [] → ∀ item ∈ frames.outside.head?, item.isImplied = false := by
    intro closed item head
    refine Bool.eq_false_iff.mpr fun implied => ?_
    obtain ⟨next, known, original⟩ := gathered.first closed item head implied
    rw [flanked.1 next known] at original
    cases original
  have settled := Frames.grounded_finish placed (List.forall_mem_nil _) (fun _ => front)
    gathered.rooted
  exact ⟨settled.1, settled.2, settled.1.2⟩

/-- A product that is not the last of the items is not the last of those behind an item. -/
theorem original_of_getLast? {item : Item} {rest : List Item}
    (last : ∀ final ∈ (item :: rest).getLast?, final.isImplied = false) :
    (∀ final ∈ rest.getLast?, final.isImplied = false) ∧ (rest = [] → item.isImplied = false) := by
  cases rest with
  | nil => exact ⟨fun _ absent => absurd absent (Option.not_mem_none _), fun _ => last item rfl⟩
  | cons next others =>
      rw [List.getLast?_cons_cons] at last
      exact ⟨last, fun impossible => absurd impossible (List.cons_ne_nil _ _)⟩

include placed in
/-- Gathering keeps the products that were put in behind an operand. -/
theorem gathered_of_gather {items : List Item} {frames : Frames}
    (ready : HoldsIn (Ready tokens) Touched items)
    (original : ∀ item ∈ items.getLast?, item.isImplied = false)
    (done : gather limit depth items = .ok frames) : Gathered tokens items frames := by
  refine gather_induction (P := fun items frames => HoldsIn (Ready tokens) Touched items →
    (∀ item ∈ items.getLast?, item.isImplied = false) → Gathered tokens items frames)
    ?nil ?suffix ?single ?group items depth frames done ready original
  case nil =>
    intro _ _
    exact ⟨Frames.rooted_empty, (fun _ _ none => absurd none (Option.not_mem_none _)),
      fun impossible => absurd rfl impossible⟩
  case suffix =>
    intro token rest frames pending ih ready last
    obtain ⟨front, -, later⟩ := holdsIn_cons.mp ready
    have stems : token.StemsFrom tokens := by
      rcases (holds_single.mp front).1 with rfl | stems
      · cases pending
      · exact stems
    have before := (ih later (original_of_getLast? last).1).rooted.settle placed
    exact ⟨before.push pending stems, fun impossible => absurd impossible (List.cons_ne_nil _ _),
      fun _ impossible => absurd impossible (List.cons_ne_nil _ _)⟩
  case single =>
    intro token rest frames plain ih ready last
    obtain ⟨front, seam, later⟩ := holdsIn_cons.mp ready
    have here : Ready tokens (.single token) := holds_single.mp front
    refine (ih later (original_of_getLast? last).1).insert placed (holds_single.mpr here.1) rfl ?_
      (original_of_getLast? last).2
    intro next head
    refine founded_of_touched here.2 ?_ (seam next head)
    rintro other ⟨⟩
    exact plain
  case group =>
    intro bracket position inner innerFrames rest frames innerIh ih ready last
    obtain ⟨front, -, later⟩ := holdsIn_cons.mp ready
    obtain ⟨⟨rooted, named⟩, inside⟩ := holds_group.mp front
    obtain ⟨name, rfl⟩ := Option.isSome_iff_exists.mp named
    obtain ⟨opener, flanked⟩ := rooted
    have content := innerIh inside flanked.2
    have settled := content.grounded placed flanked
    refine (ih later (original_of_getLast? last).1).insert placed
      (holds_group.mpr ⟨⟨opener, settled.2⟩, settled.1.1⟩) rfl (fun _ _ _ => rfl)
      fun _ => rfl

include placed in
/-- The items that are left when all frames are closed. -/
theorem grounded_of_gather {items : List Item} {frames : Frames}
    (ready : HoldsIn (Ready tokens) Touched items) (flanked : Flanked items)
    (done : gather limit depth items = .ok frames) :
    Grounded tokens frames.items ∧ Flanked frames.items :=
  (gathered_of_gather placed ready flanked.2 done).grounded placed flanked

end Item

end Calculator
