import Calculator.Proofs.Group.Frames
import Calculator.Proofs.Group.Product

/-!
# Groups without places

Where tokens stand in the text decides nothing but what is told about a problem. So it does
not matter whether places are left out before a stage or after it (`Token.placeless`,
`Parsed.placeless`): brackets are nested, products spelled out and suffixes moved in the same
way (`Group.prepare_placeless`).
-/

namespace Calculator

/-- A token without its place. -/
def Token.placeless (token : Token) : Token := { token with position := -1 }

/-- The same problem without the places it names. -/
def ParseProblem.placeless : ParseProblem → ParseProblem
  | unrecognized error => unrecognized { error with position := 0 }
  | unclosedBracket opener => unclosedBracket opener.placeless
  | strayBracket closer => strayBracket closer.placeless
  | mismatchedBrackets opener closer => mismatchedBrackets opener.placeless closer.placeless
  | misplaced token reason => misplaced token.placeless reason
  | missingOperand operator side => missingOperand operator.placeless side
  | emptyBrackets bracket _ => emptyBrackets bracket (-1)
  | tooDeep token limit => tooDeep (token.map Token.placeless) limit

theorem ParseProblem.kind_placeless (problem : ParseProblem) :
    problem.placeless.report.kind = problem.report.kind := by
  cases problem <;> rfl

namespace Parsed

variable {α β γ δ : Type}

/-- A result without places, where it is known how to leave them out of what was read. -/
def placeless (erase : α → β) (result : Except ParseProblem α) : Except ParseProblem β :=
  (result.map erase).mapError ParseProblem.placeless

@[simp] theorem placeless_ok (erase : α → β) (value : α) :
    placeless erase (.ok value) = .ok (erase value) := rfl

@[simp] theorem placeless_error (erase : α → β) (problem : ParseProblem) :
    placeless erase (.error problem) = .error problem.placeless := rfl

/-- Where one stage follows another, places may be left out between them. -/
theorem placeless_bind {erase : α → γ} {eraseNext : β → δ} {first : Except ParseProblem α}
    {next : α → Except ParseProblem β} {after : γ → Except ParseProblem δ}
    (later : ∀ value, first = .ok value → after (erase value) = placeless eraseNext (next value)) :
    (placeless erase first).bind after = placeless eraseNext (first.bind next) := by
  cases first with
  | error problem => rfl
  | ok value => exact later value rfl

theorem placeless_map {erase : α → γ} {eraseNext : β → δ} (first : Except ParseProblem α)
    {make : α → β} {build : γ → δ} (same : ∀ value, build (erase value) = eraseNext (make value)) :
    (placeless erase first).map build = placeless eraseNext (first.map make) := by
  cases first with
  | error problem => rfl
  | ok value => exact congrArg Except.ok (same value)

/-- A limit of nesting is kept or exceeded wherever the items stand. -/
theorem placeless_guard {erase : α → β} {limit depth : Nat} (token : Option Token)
    {first : Except ParseProblem α} {after : Except ParseProblem β}
    (same : after = placeless erase first) :
    (if limit < depth then .error (.tooDeep (token.map Token.placeless) limit) else after) =
      placeless erase (if limit < depth then .error (.tooDeep token limit) else first) := by
  split
  · rfl
  · exact same

end Parsed

namespace Item

mutual

/-- An item without places. -/
def placeless : Item → Item
  | .single token => .single token.placeless
  | .group bracket _ items => .group bracket (-1) (placelessIn items)

/-- Several items without places. -/
def placelessIn : List Item → List Item
  | [] => []
  | item :: rest => item.placeless :: placelessIn rest

end

@[simp] theorem placelessIn_eq_map (items : List Item) :
    placelessIn items = items.map placeless := by
  induction items with
  | nil => rw [placelessIn, List.map_nil]
  | cons item rest ih => rw [placelessIn, ih, List.map_cons]

@[simp] theorem placeless_single (token : Token) :
    placeless (.single token) = .single token.placeless := by
  rw [placeless]

@[simp] theorem placeless_group (bracket : Option String) (position : Int) (items : List Item) :
    placeless (.group bracket position items) = .group bracket (-1) (items.map placeless) := by
  rw [placeless, placelessIn_eq_map]

@[simp] theorem endsValue_placeless (item : Item) : item.placeless.endsValue = item.endsValue := by
  cases item <;> simp [endsValue, Token.placeless]

@[simp] theorem startsValue_placeless (item : Item) :
    item.placeless.startsValue = item.startsValue := by
  cases item <;> simp [startsValue, Token.placeless]

theorem placeless_impliedProduct : impliedProduct.placeless = impliedProduct := by
  rw [impliedProduct, placeless_single]
  rfl

mutual

theorem insertProducts_placeless :
    ∀ item : Item, item.placeless.insertProducts = item.insertProducts.placeless
  | .single _ => by simp [insertProducts]
  | .group _ _ items => by simp [insertProducts, insertProductsIn_placeless items]

/-- The products between items are the same wherever they stand. -/
theorem insertProductsIn_placeless :
    ∀ items : List Item,
      insertProductsIn (items.map placeless) = (insertProductsIn items).map placeless
  | [] => by rw [List.map_nil, insertProductsIn, List.map_nil]
  | item :: rest => by
      have starts : (rest.map placeless).head?.any startsValue = rest.head?.any startsValue := by
        cases rest <;> simp
      rw [List.map_cons, insertProductsIn, insertProductsIn, endsValue_placeless, starts,
        insertProducts_placeless item, insertProductsIn_placeless rest]
      split
      · rw [List.map_cons, List.map_cons, placeless_impliedProduct]
      · rw [List.map_cons]

end

end Item

namespace Group

open Item Parsed

variable {config : Config}

/-- A group without places. -/
def placeless (group : Group) : Group :=
  { group with items := group.items.map Item.placeless, position := -1 }

/-- Items and the tokens behind them without places. -/
def placelessAnswer (answer : List Item × List Token) : List Item × List Token :=
  (answer.1.map Item.placeless, answer.2.map Token.placeless)

/-- Brackets are nested in the same way wherever the tokens stand. -/
theorem nest_placeless (opener : Option Token) (depth : Nat) (tokens : List Token) :
    nest config (opener.map Token.placeless) depth (tokens.map Token.placeless) =
      Parsed.placeless placelessAnswer (nest config opener depth tokens) := by
  induction tokens using Token.bracket_induction generalizing opener depth with
  | nil => cases opener <;> simp [nest_nil_none, nest_nil_some, placelessAnswer,
      ParseProblem.placeless]
  | plain token tokens plain ih =>
      rw [List.map_cons, nest_single plain,
        nest_single (show token.placeless.kind ≠ .bracket from plain), ih]
      exact placeless_map _ fun answer => by simp [placelessAnswer]
  | opener token tokens opens ih =>
      rw [List.map_cons, nest_opener opens, nest_opener (show token.placeless.IsOpener from opens)]
      refine placeless_guard (some token) ?_
      rw [show some token.placeless = (some token).map Token.placeless from rfl,
        ih tokens (Nat.le_refl _)]
      refine placeless_bind fun inner nested => ?_
      rw [placelessAnswer, ih inner.2 (length_nest_le nested)]
      exact placeless_map _ fun answer => by simp [placelessAnswer, Token.placeless]
  | closer token tokens closes =>
      have closes' : token.placeless.IsCloser := closes
      rw [List.map_cons]
      cases opener with
      | none =>
          rw [Option.map_none, nest_stray closes, nest_stray closes']
          rfl
      | some opener =>
          by_cases matching : Token.Closes config opener token
          · rw [Option.map_some, nest_closer matching,
              nest_closer (show Token.Closes config opener.placeless token.placeless from matching)]
            rfl
          · rw [Option.map_some, nest_mismatched closes matching,
              nest_mismatched closes'
                (show ¬ Token.Closes config opener.placeless token.placeless from matching)]
            rfl

theorem ofTokens_placeless (tokens : List Token) :
    ofTokens config (tokens.map Token.placeless) =
      Parsed.placeless Group.placeless (ofTokens config tokens) := by
  rw [ofTokens_eq_nest, ofTokens_eq_nest]
  exact (congrArg _ (nest_placeless none 0 tokens)).trans (placeless_map _ fun _ => rfl)

theorem insertProducts_placeless (group : Group) :
    group.placeless.insertProducts = group.insertProducts.placeless :=
  congrArg (fun items : List Item => { group with items := items, position := -1 })
    (insertProductsIn_placeless group.items)

end Group

/-- A frame without places. -/
def Frame.placeless (frame : Frame) : Frame :=
  { frame with suffix := frame.suffix.placeless, operand := frame.operand.map Item.placeless }

namespace Frames

open Item

/-- Frames without places. -/
def placeless (frames : Frames) : Frames :=
  ⟨frames.opened.map Frame.placeless, frames.outside.map Item.placeless⟩

theorem relocated_placeless (frame : Frame) (operand : List Item) :
    frame.placeless.relocated (operand.map Item.placeless) =
      (frame.relocated operand).placeless := by
  rw [Frame.relocated, Frame.relocated, placeless_group, List.map_cons, placeless_single]
  rfl

theorem isOperator_placeless (item : Item) : item.placeless.isOperator = item.isOperator := by
  cases item <;> simp [isOperator, Token.placeless]

theorem bindsTighterThan_placeless (suffix : Token) (item : Item) :
    item.placeless.bindsTighterThan suffix.placeless = item.bindsTighterThan suffix := by
  cases item with
  | single token =>
      rw [placeless_single]
      rfl
  | group => simp [bindsTighterThan]

theorem place_placeless (item : Item) (outside arrived : List Item) (frames : List Frame) :
    place item.placeless (outside.map Item.placeless) (arrived.map Item.placeless)
        (frames.map Frame.placeless) =
      (place item outside arrived frames).placeless := by
  induction frames generalizing arrived with
  | nil => simp [place, placeless]
  | cons frame frames ih =>
      have operand : arrived.map Item.placeless ++ frame.placeless.operand =
          (arrived ++ frame.operand).map Item.placeless := (List.map_append ..).symm
      have closed := ih [frame.relocated (arrived ++ frame.operand)]
      rw [List.map_singleton] at closed
      rw [List.map_cons, place, place]
      simp only [operand, relocated_placeless, isOperator_placeless, closed]
      rw [show frame.placeless.suffix = frame.suffix.placeless from rfl, bindsTighterThan_placeless,
        show frame.placeless.complete = frame.complete from rfl]
      split
      · split <;> rfl
      · split <;> rfl

theorem insert_placeless (item : Item) (frames : Frames) :
    frames.placeless.insert item.placeless = (frames.insert item).placeless :=
  place_placeless item frames.outside [] frames.opened

theorem close_placeless (frame : Frame) (frames : List Frame) (outside : List Item) :
    close frame.placeless (frames.map Frame.placeless) (outside.map Item.placeless) =
      (close frame frames outside).placeless := by
  have group : frame.placeless.relocated frame.placeless.operand =
      (frame.relocated frame.operand).placeless := relocated_placeless frame frame.operand
  unfold close
  rw [group]
  cases frames with
  | nil => rfl
  | cons next frames => simp [placeless, Frame.placeless]

theorem settle_placeless (frames : Frames) : frames.placeless.settle = frames.settle.placeless := by
  obtain ⟨opened, outside⟩ := frames
  cases opened with
  | nil => rfl
  | cons frame rest =>
      rw [placeless, List.map_cons, settle, settle]
      simp only
      rw [close_placeless, show frame.placeless.complete = frame.complete from rfl]
      split <;> rfl

theorem finish_placeless (outside arrived : List Item) (frames : List Frame) :
    finish (outside.map Item.placeless) (arrived.map Item.placeless)
        (frames.map Frame.placeless) =
      (finish outside arrived frames).map Item.placeless := by
  induction frames generalizing arrived with
  | nil => simp [finish]
  | cons frame frames ih =>
      have operand : arrived.map Item.placeless ++ frame.placeless.operand =
          (arrived ++ frame.operand).map Item.placeless := (List.map_append ..).symm
      rw [List.map_cons, finish, finish, operand, relocated_placeless, ← List.map_singleton, ih]

theorem items_placeless (frames : Frames) :
    frames.placeless.items = frames.items.map Item.placeless :=
  finish_placeless frames.outside [] frames.opened

end Frames

namespace Item

open Parsed

variable {limit : Nat}

/-- Suffixes are moved in the same way wherever the items stand. -/
theorem gather_placeless :
    ∀ (items : List Item) (depth : Nat), gather limit depth (items.map placeless) =
      Parsed.placeless Frames.placeless (gather limit depth items)
  | [], depth => by
      rw [List.map_nil, gather]
      rfl
  | .single token :: rest, depth => by
      rw [List.map_cons, gather, gather, gather_placeless rest depth]
      refine placeless_bind fun frames _ => ?_
      rw [placeless_single]
      cases pending : token.isPendingSuffix with
      | true =>
          rw [enter_suffix pending,
            enter_suffix (show token.placeless.isPendingSuffix = true from pending),
            Frames.settle_placeless, show frames.settle.placeless.opened.length =
              frames.settle.opened.length from List.length_map _]
          exact placeless_guard (some token) rfl
      | false =>
          rw [enter_single pending,
            enter_single (show token.placeless.isPendingSuffix = false from pending),
            ← placeless_single, Frames.insert_placeless]
          rfl
  | .group bracket position items :: rest, depth => by
      rw [List.map_cons, gather, gather, gather_placeless rest depth]
      refine placeless_bind fun frames _ => ?_
      rw [placeless_group, enter_group, enter_group]
      refine placeless_guard none ?_
      rw [gather_placeless items (depth + 1)]
      refine placeless_map _ fun inner => ?_
      rw [← Frames.insert_placeless, placeless_group, Frames.items_placeless]

end Item

namespace Group

open Parsed

/-- A group is made ready for building in the same way wherever its tokens stand. -/
theorem prepare_placeless (config : Config) (tokens : List Token) :
    prepare config (tokens.map Token.placeless) =
      Parsed.placeless Group.placeless (prepare config tokens) := by
  unfold prepare
  rw [ofTokens_placeless]
  refine placeless_bind fun group _ => ?_
  rw [insertProducts_placeless, relocateSuffixes, relocateSuffixes]
  refine (congrArg _ (Item.gather_placeless group.insertProducts.items 0)).trans ?_
  exact placeless_map _ fun frames => by rw [Frames.items_placeless]; rfl

end Group

end Calculator
