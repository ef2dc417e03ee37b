import Stragglers.Json.Value
import Stragglers.Task.Json

/-!
# Reports

The tasks that were left when the retries were used up, as text for people: one line for each task, or one line for each
frame.
-/

namespace Stragglers

/-- The tasks left after the last attempt. -/
structure Report where
  tasks : List TaskRecord
  /-- How many attempts were made, the first included. -/
  attempts : Nat
  /-- The text shows one frame in a line. -/
  pretty : Bool
deriving DecidableEq, Repr

/-- The lines of a frame: its function, and its place if it is known. -/
def Frame.lines (f : Frame) : String :=
  match f.location with
  | some location => "    " ++ f.function ++ "\n        at " ++ location ++ "\n"
  | none => "    " ++ f.function ++ "\n"

/-- The lines of a task: its number and state, and its frames. -/
def TaskRecord.block (t : TaskRecord) : String :=
  t.id.text ++ " [" ++ t.state ++ "]:\n" ++ String.join (t.frames.map Frame.lines)

namespace Report

/-- The report as text; lines of tasks, and blocks, are divided by the end of a line. -/
def text (r : Report) : String :=
  if r.pretty then "\n".intercalate (r.tasks.map TaskRecord.block)
  else "\n".intercalate (r.tasks.map TaskRecord.summary)

/-- The report as a JSON object; how it is shown as text is no part of it. -/
def toJson (r : Report) : Json.Value :=
  .object [("attempts", .ofNat r.attempts), ("tasks", .array (r.tasks.map TaskRecord.toJson))]

/-- The report as a document, in the pieces in which it is written. -/
def pieces (r : Report) : List String :=
  r.toJson.pieces .indented 0

/-- The report as a document. -/
def document (r : Report) : String :=
  r.toJson.write .indented

end Report

end Stragglers
