import Stragglers.Policy.Basic
import Stragglers.Report.Basic

/-!
# Detection

A check takes snapshots until every task is expected or the retries are used up. `find` gives the tasks that are left as an
error, `verifyNone` ends a test with a panic, and `verifyMain` tells of them on the error output and gives the exit code of a
whole suite; the last two call the cleanup when everything else is done.
-/

namespace Stragglers

/-- Why a check fails. -/
inductive LeakError where
  /-- Tasks were left that no rule expects. -/
  | leaked (report : Report)
  /-- A cleanup was asked for where none is called. -/
  | cleanupNotAllowed
  /-- A snapshot could not be taken. -/
  | snapshot (error : SnapshotError)
deriving DecidableEq, Repr

/-- The error in words. -/
def LeakError.message : LeakError → String
  | .leaked report => "found unexpected tasks:\n" ++ report.text
  | .cleanupNotAllowed => "cleanup can only be passed to verify_none or verify_main"
  | .snapshot error => error.message

/-- The line that tells of the error when it is found behind a suite that passed. -/
def LeakError.complaint (e : LeakError) : String :=
  "taskleak: errors on successful test run: " ++ e.message

namespace Policy

/-- The task is not the one that checks, and no rule matches it. -/
def isUnexpected (p : Policy) (current : Option TaskId) (t : TaskRecord) : Bool :=
  some t.id != current && !(p.firstMatch? t).isSome

/-- A task is unexpected if it is not the one that checks and the policy does not expect it. -/
theorem isUnexpected_eq (p : Policy) (current : Option TaskId) (t : TaskRecord) :
    p.isUnexpected current t = (some t.id != current && !p.expects t) := by
  rw [isUnexpected, firstMatch?, expects, Rule.isSome_firstMatch?]

/-- What is told of a task that is not the one that checks: the label of the rule that expects it. -/
def noticeOf? (p : Policy) (current : Option TaskId) (t : TaskRecord) : Option Notice :=
  if some t.id = current then none else (p.firstMatch? t).map (.expected t.id)

/-- The unexpected tasks of a snapshot; each expected one is told. -/
def unexpected (p : Policy) (current : Option TaskId) (tasks : List TaskRecord) : Traced (List TaskRecord) := do
  Traced.noteAll (tasks.filterMap (p.noticeOf? current))
  return tasks.filter (p.isUnexpected current)

/-- One attempt: the unexpected tasks of the answer that the source gives to the request of this index. -/
def attempt (p : Policy) (source : Source) (index : Nat) : Traced (Except LeakError (List TaskRecord)) := do
  match ← (source.shot index).take with
  | .error e => return .error (.snapshot e)
  | .ok tasks => return .ok (← p.unexpected source.current tasks)

/-- What a check makes of the end of its attempts. -/
def conclude (p : Policy) : Except LeakError (Outcome TaskRecord) → Traced (Except LeakError Unit)
  | .error e => return .error e
  | .ok (.succeeded attempts) => do
    if 1 < attempts then Traced.note (.cleared attempts)
    return .ok ()
  | .ok (.exhausted attempts remaining) => do
    Traced.note (.alive remaining.length attempts)
    return .error (.leaked ⟨remaining, attempts, p.pretty⟩)

/-- Takes snapshots until nothing unexpected is left or the retries are used up. -/
def check (p : Policy) (source : Source) : Traced (Except LeakError Unit) := do
  p.conclude (← p.backoff.run (p.attempt source))

/-- The last action of a check: the cleanup, if there is one, is called with the code. -/
def cleanUp (p : Policy) (code : Int32) : Traced Unit :=
  match p.cleanup with
  | some name => Traced.act (.cleaned name code)
  | none => pure ()

end Policy

/-- Checks that no unexpected task is left; there is no cleanup. -/
def find (source : Source) (settings : List Setting) : Traced (Except LeakError Unit) :=
  let policy := Policy.withDefaults settings
  if policy.cleanup.isSome then return .error .cleanupNotAllowed
  else policy.check source

/-- Checks at the end of a test, calls the cleanup with zero, and gives the message to panic with if the check fails. -/
def verifyNone (source : Source) (settings : List Setting) : Traced (Option String) := do
  let policy := Policy.withDefaults settings
  let result ← policy.check source
  policy.cleanUp 0
  match result with
  | .ok () => return none
  | .error e => return some e.message

/-- Runs a suite that ends with this code, checks if the code is zero, tells of a check that fails on the error output, and calls
the cleanup with the code that is given back: one if the check fails, and the code of the suite otherwise. -/
def verifyMain (source : Source) (suite : Int32) (settings : List Setting) : Traced Int32 := do
  let policy := Policy.withDefaults settings
  Traced.act .ran
  let code ←
    if suite = 0 then do
      match ← policy.check source with
      | .ok () => pure 0
      | .error e => do
        Traced.act (.printed e.complaint)
        pure 1
    else pure suite
  policy.cleanUp code
  return code

end Stragglers
