import Stragglers.Task.Basic

/-!
# Registries

The live tasks of one tracker in the order of their numbers. Each registration takes the next number and puts an entry in under
it, whether the task comes to run or not, and a task is taken out when it ends. Between the two steps of a registration others
may take numbers and put their entries in.
-/

namespace Stragglers

/-- What a registry knows of a task besides its number. -/
structure Registered where
  state : String
  frames : List Frame
deriving DecidableEq, Repr

/-- The live tasks of a tracker. -/
structure Registry where
  /-- The number of the next registration. -/
  next : UInt64
  /-- The tasks, in the order of their numbers. -/
  entries : List (TaskId × Registered)
deriving DecidableEq, Repr

namespace Registry

/-- No task has been registered yet. -/
def empty : Registry :=
  ⟨1, []⟩

/-- The entries with one more, at its place; it takes the place of one with its number. -/
def insertEntry (id : TaskId) (e : Registered) : List (TaskId × Registered) → List (TaskId × Registered)
  | [] => [(id, e)]
  | (i, f) :: rest =>
    if id.val < i.val then (id, e) :: (i, f) :: rest
    else if id = i then (id, e) :: rest
    else (i, f) :: insertEntry id e rest

/-- The registry with a number less to give, and that number. -/
def takeNumber (r : Registry) : Registry × TaskId :=
  ({ r with next := r.next + 1 }, ⟨r.next⟩)

/-- The registry with a task of this number, state and frames. -/
def insert (r : Registry) (id : TaskId) (state : String) (frames : List Frame) : Registry :=
  { r with entries := insertEntry id ⟨state, frames⟩ r.entries }

/-- The registry without a task. -/
def remove (r : Registry) (id : TaskId) : Registry :=
  { r with entries := r.entries.filter fun e => e.1 ≠ id }

/-- The state of a task, if it is registered. -/
def state? (r : Registry) (id : TaskId) : Option String :=
  (r.entries.find? fun e => e.1 = id).map (·.2.state)

/-- The registry with the state of a task replaced; nothing happens if it is not registered. -/
def setState (r : Registry) (id : TaskId) (state : String) : Registry :=
  { r with entries := r.entries.map fun e => if e.1 = id then (e.1, { e.2 with state := state }) else e }

/-- The numbers of the tasks, in their order. -/
def ids (r : Registry) : List TaskId :=
  r.entries.map (·.1)

/-- The records of the tasks, in the order of their numbers. -/
def records (r : Registry) : List TaskRecord :=
  r.entries.map fun e => TaskRecord.of e.1 e.2.state e.2.frames

/-- How many tasks are registered. -/
def size (r : Registry) : Nat :=
  r.entries.length

end Registry

end Stragglers
