import Stragglers.Rule.Named
import Stragglers.Source

/-!
# Settings

The settings of a check, and the settings as a caller asks for them: most are values, a rule for a qualifier may give a
warning when it is made, and the rule for the tasks alive right now takes a snapshot at that moment. `Request.settings` makes
the settings of a list of requests in their order and says what is left of the source.
-/

namespace Stragglers

/-- One setting of a check. -/
inductive Setting where
  /-- Tasks that the rule matches are expected. -/
  | rule (r : Rule)
  /-- At most so many attempts follow the first. -/
  | maxRetries (n : UInt32)
  /-- No pause between two attempts is longer. -/
  | maxSleep (d : Duration)
  /-- The cleanup of this name is called at the end. -/
  | cleanup (name : String)
  /-- A report shows one frame in a line. -/
  | pretty

namespace Setting

/-- The tasks alive right now are expected from now on. -/
def ignoreCurrent (shot : Shot) : Traced (Except SnapshotError Setting) := do
  match ← shot.take with
  | .error e => return .error e
  | .ok tasks =>
    let ids := tasks.map (·.id)
    Traced.note (.baseline ids.eraseDups.length)
    return .ok (.rule (.ofIds ids))

/-- A snapshot that is taken makes the rule for the numbers of its tasks. -/
theorem value_ignoreCurrent {shot : Shot} {tasks : List TaskRecord} (h : shot.outcome = .ok tasks) :
    (ignoreCurrent shot).value = .ok (.rule (.ofIds (tasks.map (·.id)))) := by
  simp only [ignoreCurrent, Shot.take, Traced.value_bind, Traced.value_pure, h]

/-- The setting is a cleanup. -/
def isCleanup : Setting → Bool
  | .cleanup _ => true
  | _ => false

end Setting

/-- A setting as a caller asks for it. -/
inductive Request where
  /-- A setting that is there. -/
  | given (s : Setting)
  /-- The rule for a qualifier. -/
  | nested (kind : Nesting) (qualifier : String)
  /-- The rule for the tasks alive when it is made. -/
  | ignoreCurrent

namespace Request

/-- The settings of the requests, and the source behind the snapshots that they took; the first error ends it. -/
def settings (source : Source) : List Request → Traced (Except SnapshotError (List Setting × Source))
  | [] => return .ok ([], source)
  | .given s :: requests => do
    return (← settings source requests).map fun r => (s :: r.1, r.2)
  | .nested kind qualifier :: requests => do
    Traced.noteAll (Rule.nestedNotices kind qualifier)
    return (← settings source requests).map fun r => (.rule (.nested kind qualifier) :: r.1, r.2)
  | .ignoreCurrent :: requests => do
    match ← Setting.ignoreCurrent (source.shot 0) with
    | .error e => return .error e
    | .ok s => return (← settings (source.later 1) requests).map fun r => (s :: r.1, r.2)

end Request

end Stragglers
