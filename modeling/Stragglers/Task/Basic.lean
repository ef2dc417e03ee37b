import Stragglers.Text.Pattern
import Stragglers.Text.Search

/-!
# Tasks

A live task as a snapshot shows it: its number, a word for what it is doing, and the functions of its call chain with the
innermost first. The function on top is kept beside the chain: `TaskRecord.of` takes it from the first frame, and a record
read from elsewhere carries the one that was given.
-/

namespace Stragglers

/-- The number of a task, unique among the live tasks of its source. -/
structure TaskId where
  val : UInt64
deriving DecidableEq, Repr

/-- A task is named by its number. -/
def TaskId.text (id : TaskId) : String :=
  "Task#" ++ toString id.val.toNat

/-- One function of a call chain, and where it stands in its source if that is known. -/
structure Frame where
  function : String
  location : Option String
deriving DecidableEq, Repr

namespace Frame

/-- A frame whose place is not known. -/
def named (function : String) : Frame :=
  ⟨function, none⟩

/-- A frame with its place. -/
def located (function location : String) : Frame :=
  ⟨function, some location⟩

/-- The function, followed by its place if there is one. -/
def text (f : Frame) : String :=
  match f.location with
  | some location => f.function ++ " at " ++ location
  | none => f.function

end Frame

/-- A live task. -/
structure TaskRecord where
  id : TaskId
  state : String
  topFunction : String
  frames : List Frame
deriving DecidableEq, Repr

namespace TaskRecord

/-- The function of the first frame, and the empty text of a chain without frames. -/
def topOf : List Frame → String
  | [] => ""
  | f :: _ => f.function

/-- The record of a task whose top function is that of its first frame. -/
def of (id : TaskId) (state : String) (frames : List Frame) : TaskRecord :=
  ⟨id, state, topOf frames, frames⟩

/-- A record is built from a state and frames if it has these, and the function of the first frame on top. -/
theorem eq_of_iff {t : TaskRecord} {state : String} {frames : List Frame} :
    t = of t.id state frames ↔ t.state = state ∧ t.topFunction = topOf frames ∧ t.frames = frames := by
  cases t
  simp [of]

/-- A function of exactly this name is in the chain. -/
def hasFunction (t : TaskRecord) (function : String) : Bool :=
  t.frames.any fun f => f.function == function

/-- The words stand in the text of some frame. -/
def hasEntry (t : TaskRecord) (words : String) : Bool :=
  t.frames.any fun f => Text.occursIn words.toList f.text.toList

/-- The pattern stands in the function of some frame. -/
def hasPattern (t : TaskRecord) (p : Pattern) : Bool :=
  t.frames.any fun f => p.standsIn f.function.toList

/-- The task in one sentence. -/
def summary (t : TaskRecord) : String :=
  t.id.text ++ " in state " ++ t.state ++ ", with " ++ t.topFunction ++ " on top of the stack"

end TaskRecord

end Stragglers
