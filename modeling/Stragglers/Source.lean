import Stragglers.Trace

/-!
# Sources of snapshots

A source answers each request for a snapshot with the live tasks or with an error, and may give notices while it looks. Since
its tasks come and go between two requests, a source is the sequence of its answers.
-/

namespace Stragglers

/-- One answer of a source. -/
structure Shot where
  outcome : Except SnapshotError (List TaskRecord)
  notices : List Notice

namespace Shot

/-- The answer with these tasks and no notice. -/
def ofTasks (tasks : List TaskRecord) : Shot :=
  ⟨.ok tasks, []⟩

/-- The request, the notices given on the way, and the outcome. -/
def take (s : Shot) : Traced (Except SnapshotError (List TaskRecord)) := do
  Traced.act .snapshot
  Traced.noteAll s.notices
  return s.outcome

end Shot

/-- What answers the requests for snapshots. -/
structure Source where
  /-- The answer to each request in turn, counted from zero. -/
  shot : Nat → Shot
  /-- The task that asks, if it is a task of this source. -/
  current : Option TaskId

namespace Source

/-- The source that gives the answers of a list in turn; the last one is repeated, and no list means no tasks. -/
def ofScript (shots : List Shot) (current : Option TaskId) : Source where
  shot n := (shots[min n (shots.length - 1)]?).getD (.ofTasks [])
  current := current

/-- The source that always gives the same answer. -/
def steady (shot : Shot) (current : Option TaskId) : Source :=
  ⟨fun _ => shot, current⟩

/-- The source after so many requests. -/
def later (s : Source) (n : Nat) : Source :=
  ⟨fun k => s.shot (n + k), s.current⟩

end Source

end Stragglers
