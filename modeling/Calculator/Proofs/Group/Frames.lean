import Calculator.Group.Suffix
import Calculator.Proofs.Group.Level
import Calculator.Proofs.Precedence
import Calculator.Proofs.Result

/-!
# Gathering items into frames

What holds of the empty frames, and is kept when a suffix opens a frame, when a
token is placed and when a bracketed group is placed, holds of whatever gathering
returns (`Item.gather_induction`). The first use of it: nothing is lost. Putting
every moved suffix back behind its operand gives the items that went in
(`Item.restoredIn_items_of_gather`).
-/

namespace Calculator

namespace Item

variable {limit depth : Nat}

theorem gather_cons {item : Item} {rest : List Item} {frames : Frames}
    (gathered : gather limit depth (item :: rest) = .ok frames) :
    ∃ before, gather limit depth rest = .ok before ∧
      item.enter limit depth before = .ok frames := by
  rw [gather] at gathered
  exact exists_of_bind gathered

theorem enter_single {token : Token} (placed : token.isPendingSuffix = false) (frames : Frames) :
    enter limit depth (.single token) frames = .ok (frames.insert (.single token)) := by
  rw [enter, placed, if_neg Bool.false_ne_true]

theorem enter_suffix {token : Token} (pending : token.isPendingSuffix = true) (frames : Frames) :
    enter limit depth (.single token) frames =
      if limit < depth + (frames.settle.opened.length + 1) then .error (.tooDeep (some token) limit)
      else .ok (frames.settle.push token) := by
  rw [enter, pending, if_pos rfl]

theorem enter_group (bracket : Option String) (position : Int) (items : List Item)
    (frames : Frames) :
    enter limit depth (.group bracket position items) frames =
      if limit < depth + 1 then .error (.tooDeep none limit)
      else (gather limit (depth + 1) items).map fun inner =>
        frames.insert (.group bracket position inner.items) := by
  rw [enter]
  split
  · rfl
  · rcases gather limit (depth + 1) items with problem | inner <;> rfl

/-- One case for each way in which an item can enter the frames. -/
theorem gather_induction {P : List Item → Frames → Prop} (nil : P [] Frames.empty)
    (suffix : ∀ token rest frames, token.isPendingSuffix = true → P rest frames →
      P (.single token :: rest) (frames.settle.push token))
    (single : ∀ token rest frames, token.isPendingSuffix = false → P rest frames →
      P (.single token :: rest) (frames.insert (.single token)))
    (group : ∀ bracket position items inner rest frames, P items inner → P rest frames →
      P (.group bracket position items :: rest)
        (frames.insert (.group bracket position inner.items))) :
    ∀ (items : List Item) (depth : Nat) (frames : Frames),
      gather limit depth items = .ok frames → P items frames
  | [], _, frames, gathered => by
      rw [gather] at gathered
      cases gathered
      exact nil
  | .single token :: rest, depth, frames, gathered => by
      obtain ⟨before, earlier, entered⟩ := gather_cons gathered
      have kept := gather_induction nil suffix single group rest depth before earlier
      cases pending : token.isPendingSuffix with
      | true =>
          rw [enter_suffix pending] at entered
          split at entered
          · cases entered
          · cases entered
            exact suffix token rest before pending kept
      | false =>
          rw [enter_single pending] at entered
          cases entered
          exact single token rest before pending kept
  | .group bracket position items :: rest, depth, frames, gathered => by
      obtain ⟨before, earlier, entered⟩ := gather_cons gathered
      have kept := gather_induction nil suffix single group rest depth before earlier
      rw [enter_group] at entered
      split at entered
      · cases entered
      · obtain ⟨inner, inside, rfl⟩ := exists_of_map entered
        exact group bracket position items inner rest before
          (gather_induction nil suffix single group items (depth + 1) inner inside) kept

theorem gather_cons_error {item : Item} {rest : List Item} {problem : ParseProblem}
    (failed : gather limit depth (item :: rest) = .error problem) :
    gather limit depth rest = .error problem ∨
      ∃ before, item.enter limit depth before = .error problem := by
  rw [gather] at failed
  exact (error_or_exists_of_bind failed).imp_right fun ⟨before, _, entered⟩ => ⟨before, entered⟩

/-- Gathering fails only where items nest too deep, at one of their tokens or at a group. -/
theorem exists_tooDeep_of_gather {T : Token → Prop} :
    ∀ (items : List Item) (depth : Nat) (problem : ParseProblem),
      HoldsIn (fun item => ∀ token, item = .single token → T token) (fun _ _ => True) items →
        gather limit depth items = .error problem →
          ∃ token, problem = .tooDeep token limit ∧ ∀ known ∈ token, T known
  | [], _, problem, _, failed => by
      rw [gather] at failed
      cases failed
  | .single token :: rest, depth, problem, holds, failed => by
      obtain ⟨front, -, later⟩ := holdsIn_cons.mp holds
      rcases gather_cons_error failed with earlier | ⟨before, entered⟩
      · exact exists_tooDeep_of_gather rest depth problem later earlier
      · cases pending : token.isPendingSuffix with
        | true =>
            rw [enter_suffix pending] at entered
            split at entered
            · refine ⟨some token, (Except.error.inj entered).symm, ?_⟩
              rintro _ ⟨⟩
              exact holds_single.mp front token rfl
            · cases entered
        | false =>
            rw [enter_single pending] at entered
            cases entered
  | .group bracket position items :: rest, depth, problem, holds, failed => by
      obtain ⟨front, -, later⟩ := holdsIn_cons.mp holds
      rcases gather_cons_error failed with earlier | ⟨before, entered⟩
      · exact exists_tooDeep_of_gather rest depth problem later earlier
      · rw [enter_group] at entered
        split at entered
        · refine ⟨none, (Except.error.inj entered).symm, ?_⟩
          exact fun _ absent => absurd absent (Option.not_mem_none _)
        · exact exists_tooDeep_of_gather items (depth + 1) problem (holds_group.mp front).2
            (error_of_map entered)

theorem eq_tooDeep_of_gather (items : List Item) (depth : Nat) (problem : ParseProblem)
    (failed : gather limit depth items = .error problem) :
    ∃ token, problem = .tooDeep token limit := by
  obtain ⟨token, same, -⟩ := exists_tooDeep_of_gather (T := fun _ => True) items depth problem
    (holdsIn_of_forall (fun _ _ _ => trivial) fun _ _ => trivial) failed
  exact ⟨token, same⟩

/-- A suffix at the front of an operand goes back behind it and forgets its
position. -/
def moveBack : List Item → List Item
  | .single suffix :: operand => operand ++ [.single suffix.plain]
  | items => items

mutual

/-- The items that an item stands for when every moved suffix goes back behind its
operand. -/
def restored : Item → List Item
  | .single token => [.single token]
  | .group (some bracket) position items => [.group (some bracket) position (restoredIn items)]
  | .group none _ items => moveBack (restoredIn items)

/-- The same for several items. -/
def restoredIn : List Item → List Item
  | [] => []
  | item :: rest => item.restored ++ restoredIn rest

end

@[simp] theorem restoredIn_append (first second : List Item) :
    restoredIn (first ++ second) = restoredIn first ++ restoredIn second := by
  induction first with
  | nil => rfl
  | cons item rest ih => rw [List.cons_append, restoredIn, restoredIn, ih, List.append_assoc]

@[simp] theorem restoredIn_cons (item : Item) (rest : List Item) :
    restoredIn (item :: rest) = item.restored ++ restoredIn rest := by
  rw [restoredIn]

@[simp] theorem restoredIn_nil : restoredIn [] = [] := by
  rw [restoredIn]

@[simp] theorem restored_single (token : Token) : restored (.single token) = [.single token] := by
  rw [restored]

end Item

open Item

theorem Frame.restored_relocated (frame : Frame) (operand : List Item) :
    (frame.relocated operand).restored =
      restoredIn operand ++ [.single frame.suffix.plain] := by
  rw [Frame.relocated, restored, restoredIn_cons, restored_single]
  rfl

namespace Frames

/-- The items that open frames and what is outside of them stand for. -/
def restoredAll (outside : List Item) : List Frame → List Item
  | [] => restoredIn outside
  | frame :: frames =>
    restoredIn frame.operand ++
      .single frame.suffix.plain :: restoredAll outside frames

/-- The items that have been gathered, in order. -/
def restored (frames : Frames) : List Item := restoredAll frames.outside frames.opened

theorem restored_place (item : Item) (outside arrived : List Item) (frames : List Frame) :
    (place item outside arrived frames).restored =
      item.restored ++ restoredIn arrived ++ restoredAll outside frames := by
  induction frames generalizing arrived with
  | nil => simp [place, restored, restoredAll]
  | cons frame frames ih =>
      rw [place]
      have handed :
          (place item outside [frame.relocated (arrived ++ frame.operand)] frames).restored =
          item.restored ++ restoredIn arrived ++ restoredAll outside (frame :: frames) := by
        rw [ih, restoredIn_cons, Frame.restored_relocated]
        simp [restoredAll]
      split
      · split
        · simp [restored, restoredAll]
        · exact handed
      · split
        · exact handed
        · simp [restored, restoredAll]

@[simp] theorem restored_insert (item : Item) (frames : Frames) :
    (frames.insert item).restored = item.restored ++ frames.restored := by
  rw [insert, restored_place, restoredIn_nil, List.append_nil, restored]

@[simp] theorem restored_settle (frames : Frames) : frames.settle.restored = frames.restored := by
  obtain ⟨opened, outside⟩ := frames
  unfold settle
  match opened with
  | [] => rfl
  | [frame] =>
      simp only
      split
      · rw [close, restored, restoredAll, restoredIn_cons, Frame.restored_relocated]
        simp [restored, restoredAll]
      · rfl
  | frame :: next :: others =>
      simp only
      split
      · rw [close, restored, restoredAll, restoredIn_cons, Frame.restored_relocated]
        simp [restored, restoredAll]
      · rfl

theorem restoredIn_finish (outside arrived : List Item) (frames : List Frame) :
    restoredIn (finish outside arrived frames) =
      restoredIn arrived ++ restoredAll outside frames := by
  induction frames generalizing arrived with
  | nil => rw [finish, restoredIn_append, restoredAll]
  | cons frame frames ih =>
      rw [finish, ih, restoredIn_cons, Frame.restored_relocated]
      simp [restoredAll]

@[simp] theorem restoredIn_items (frames : Frames) : restoredIn frames.items = frames.restored := by
  rw [items, restoredIn_finish, restoredIn_nil, List.nil_append, restored]

end Frames

namespace Item

variable {limit depth : Nat}

/-- An item all of whose groups have a bracket. -/
def Bracketed : Item → Prop
  | .single _ => True
  | .group bracket _ _ => bracket.isSome = true

theorem fixity_of_isPendingSuffix {token : Token} (pending : token.isPendingSuffix = true) :
    token.fixity = none := by
  unfold Token.isPendingSuffix at pending
  simp only [Bool.and_eq_true, beq_iff_eq] at pending
  exact pending.1.2

/-- No item is lost, and none changes its place, up to moving suffixes. -/
theorem restored_of_gather {items : List Item} {frames : Frames}
    (bracketed : HoldsIn Bracketed (fun _ _ => True) items)
    (gathered : gather limit depth items = .ok frames) : frames.restored = items := by
  revert bracketed
  refine gather_induction (P := fun items frames =>
    HoldsIn Bracketed (fun _ _ => True) items → frames.restored = items)
    ?nil ?suffix ?single ?group items depth frames gathered
  case nil =>
    intro _
    simp [Frames.empty, Frames.restored, Frames.restoredAll]
  case suffix =>
    intro token rest frames pending ih bracketed
    have kept := ih (holdsIn_cons.mp bracketed).2.2
    rw [← Frames.restored_settle] at kept
    rw [← kept]
    change restoredIn [] ++ .single token.suffixed.plain :: _ = _
    rw [Token.plain_suffixed (fixity_of_isPendingSuffix pending)]
    rfl
  case single =>
    intro token rest frames _ ih bracketed
    rw [Frames.restored_insert, restored_single, ih (holdsIn_cons.mp bracketed).2.2]
    rfl
  case group =>
    intro bracket position inner innerFrames rest frames innerIh ih bracketed
    obtain ⟨front, -, later⟩ := holdsIn_cons.mp bracketed
    obtain ⟨named, inside⟩ := holds_group.mp front
    obtain ⟨name, rfl⟩ := Option.isSome_iff_exists.mp named
    rw [Frames.restored_insert, restored, Frames.restoredIn_items, innerIh inside, ih later]
    rfl

end Item

end Calculator
