import Calculator.Group.Basic
import Calculator.Operator
import Calculator.Problem

/-!
# Moving suffix operators

`Group.relocateSuffixes` puts every suffix operator in front of its operand and
wraps both in a group, so that afterwards all operators stand before or between
their operands.

The items are taken from right to left. A suffix operator opens a frame, which
gathers its operand: one value, widened to the left by operators that bind
tighter than the suffix. The frame closes at the first item that does not belong
to it, and the frame around it receives the new group.
-/

namespace Calculator

/-- A suffix operator with the part of its operand that has been gathered, and
whether a value stands at the left end of it. -/
structure Frame where
  suffix : Token
  operand : List Item
  complete : Bool

/-- The open frames, innermost first, and the items outside all of them. -/
structure Frames where
  opened : List Frame
  outside : List Item

def Item.isOperator : Item → Bool
  | .single token => token.kind == .operator
  | .group .. => false

/-- Whether an item is an operator that binds tighter than a suffix. -/
def Item.bindsTighterThan (suffix : Token) : Item → Bool
  | .single token => token.kind == .operator && Operator.bindsTighter (some token) (some suffix)
  | .group .. => false

/-- The group that takes the place of a suffix operator and its operand. -/
def Frame.relocated (frame : Frame) (operand : List Item) : Item :=
  .group none frame.suffix.position (.single frame.suffix :: operand)

namespace Frames

def empty : Frames := ⟨[], []⟩

/-- Gives an item to the innermost frame that it belongs to. The frames inside of
that one are closed, each handing its group, here `arrived`, to the next. -/
def place (item : Item) (outside : List Item) : List Item → List Frame → Frames
  | arrived, [] => ⟨[], item :: (arrived ++ outside)⟩
  | arrived, frame :: frames =>
    let operand := arrived ++ frame.operand
    if item.isOperator then
      if item.bindsTighterThan frame.suffix then
        ⟨{ frame with operand := item :: operand, complete := false } :: frames, outside⟩
      else place item outside [frame.relocated operand] frames
    else if frame.complete then place item outside [frame.relocated operand] frames
    else ⟨{ frame with operand := item :: operand, complete := true } :: frames, outside⟩

/-- Gives an item to the innermost frame that it belongs to. -/
def insert (item : Item) (frames : Frames) : Frames :=
  place item frames.outside [] frames.opened

/-- Closes the innermost frame. -/
def close (frame : Frame) (frames : List Frame) (outside : List Item) : Frames :=
  let group := frame.relocated frame.operand
  match frames with
  | [] => ⟨[], group :: outside⟩
  | next :: frames => ⟨{ next with operand := group :: next.operand } :: frames, outside⟩

/-- Closes the innermost frame if its operand is complete. -/
def settle (frames : Frames) : Frames :=
  match frames.opened with
  | [] => frames
  | frame :: rest => if frame.complete then close frame rest frames.outside else frames

/-- Opens a frame for a suffix operator. -/
def push (suffix : Token) (frames : Frames) : Frames :=
  { frames with
    opened := ⟨{ suffix with fixity := some .suffixed }, [], false⟩ :: frames.opened }

def finish (outside : List Item) : List Item → List Frame → List Item
  | arrived, [] => arrived ++ outside
  | arrived, frame :: frames => finish outside [frame.relocated (arrived ++ frame.operand)] frames

/-- The items that are left when all frames are closed. -/
def items (frames : Frames) : List Item := finish frames.outside [] frames.opened

end Frames

/-- Whether a token is a suffix operator that has not been moved yet. -/
def Token.isPendingSuffix (token : Token) : Bool :=
  token.kind == .operator && token.fixity == none && Operator.isSuffixed token.lexeme

namespace Item

mutual

/-- The frames after the given items, taken from the right. The frames that are
open together count toward the limit of nesting, and so do the groups around
them. -/
def gather (limit depth : Nat) : List Item → Except ParseProblem Frames
  | [] => .ok Frames.empty
  | item :: rest => do
    let frames ← gather limit depth rest
    item.enter limit depth frames

/-- The frames after one more item on the left. -/
def enter (limit depth : Nat) : Item → Frames → Except ParseProblem Frames
  | .single token, frames =>
    if token.isPendingSuffix then
      let frames := frames.settle
      if limit < depth + (frames.opened.length + 1) then .error (.tooDeep (some token) limit)
      else .ok (frames.push token)
    else .ok (frames.insert (.single token))
  | .group bracket position items, frames =>
    if limit < depth + 1 then .error (.tooDeep none limit)
    else do
      let inner ← gather limit (depth + 1) items
      .ok (frames.insert (.group bracket position inner.items))

end

end Item

/-- A group with every suffix operator moved in front of its operand. -/
def Group.relocateSuffixes (config : Config) (group : Group) : Except ParseProblem Group :=
  (Item.gather config.maxDepth 0 group.items).map fun frames =>
    { group with items := frames.items }

end Calculator
