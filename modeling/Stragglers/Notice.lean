import Stragglers.Duration
import Stragglers.Failure
import Stragglers.Task.Basic

/-!
# Notices

What the library tells while it works, each with its level and its words.
-/

namespace Stragglers

/-- How much a notice matters. -/
inductive Level where
  | debug | info | warn
deriving DecidableEq, Repr

/-- The name of a level. -/
def Level.name : Level → String
  | .debug => "DEBUG"
  | .info => "INFO"
  | .warn => "WARN"

/-- Something worth telling. -/
inductive Notice where
  /-- A task of a snapshot is matched by the rule of this label. -/
  | expected (task : TaskId) (label : String)
  /-- Some tasks are left after an attempt, and another one follows. -/
  | retrying (attempt unexpected : Nat) (pause : Duration)
  /-- Nothing was left, after more than one attempt. -/
  | cleared (attempts : Nat)
  /-- Some tasks were left after the last attempt. -/
  | alive (unexpected attempts : Nat)
  /-- The tasks of a snapshot are expected from now on. -/
  | baseline (tasks : Nat)
  /-- A qualifier is too long to be searched for. -/
  | tooLong (label : String)
  /-- A thread is left out of a snapshot. -/
  | skipped (thread : UInt64) (fault : ThreadFault)
  /-- A task is registered; the function is that of its first frame. -/
  | tracking (task : TaskId) (function : String)
  /-- A registered task has ended. -/
  | finished (task : TaskId)
deriving DecidableEq, Repr

namespace Notice

/-- The level of a notice. -/
def level : Notice → Level
  | .cleared _ => .info
  | .alive _ _ | .tooLong _ => .warn
  | _ => .debug

/-- The bytes that the compiled form of a pattern may take. -/
def patternSizeLimit : Nat := 10485760

/-- The notice in words. -/
def message : Notice → String
  | .expected task label => task.text ++ " expected (" ++ label ++ ")"
  | .retrying attempt unexpected pause =>
    "Attempt " ++ toString attempt ++ ": " ++ toString unexpected ++ " unexpected, retrying in " ++ pause.text
  | .cleared attempts => "No unexpected tasks after " ++ toString attempts ++ " attempts"
  | .alive unexpected attempts =>
    toString unexpected ++ " unexpected tasks still alive after " ++ toString attempts ++ " attempts"
  | .baseline tasks => "Captured baseline of " ++ toString tasks ++ " tasks"
  | .tooLong label =>
    "Ignoring " ++ label ++ ": Compiled regex exceeds size limit of " ++ toString patternSizeLimit ++ " bytes."
  | .skipped thread fault => "Skipping thread " ++ toString thread.toNat ++ ": " ++ fault.message
  | .tracking task function => "Tracking " ++ task.text ++ " (" ++ function ++ ")"
  | .finished task => task.text ++ " finished"

end Notice

end Stragglers
