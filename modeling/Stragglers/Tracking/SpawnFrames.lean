import Stragglers.Task.Basic
import Stragglers.Task.Names

/-!
# Frames of a spawned task

What can be seen of a task when it is spawned: the name of its thread, the name of its entry, the function that spawned it, and
the place. The name of a closure is the name of the function that holds it, with a suffix for each level; so the function that
spawned a closure is what is left without the suffixes.
-/

namespace Stragglers

/-- What a closure adds to the name of the function that holds it. -/
def closureSuffix : List Char := "::\x7b\x7bclosure\x7d\x7d".toList

/-- The name without all closure suffixes at its end. -/
def withoutClosures (name : List Char) : List Char :=
  if closureSuffix.isSuffixOf name then withoutClosures (name.take (name.length - closureSuffix.length)) else name
termination_by name.length
decreasing_by
  rename_i h
  have hle : closureSuffix.length ≤ name.length := (List.isSuffixOf_iff_suffix.mp h).length_le
  have hpos : 0 < closureSuffix.length := by decide
  rw [List.length_take]
  omega

/-- The function that spawned a closure, and nothing if the entry is no closure or no function is left. -/
def spawner? (entry : String) : Option String :=
  let name := withoutClosures entry.toList
  if name = entry.toList ∨ name = [] then none else some (String.ofList name)

/-- The frames of the entry: a closure stands above the function that spawned it, which has the place; another entry has the
place itself. -/
def entryFrames (entry site : String) : List Frame :=
  match spawner? entry with
  | some spawner => [.named entry, .located spawner site]
  | none => [.located entry site]

/-- The frames of a spawned task: the name of its thread if it has one, its entry, and what all tasks end in. -/
def spawnFrames (name : Option String) (entry site : String) : List Frame :=
  (name.map Frame.named).toList ++ entryFrames entry site ++ [.named FunctionName.taskExit]

end Stragglers
