import Stragglers.Detection
import Stragglers.Tracking.Basic

/-!
# Scenarios

A scenario drives trackers, threads and async tasks by commands. Trackers, threads, jobs, guards and baselines go by names. A
command runs on the main thread or on a tracked one; an order for a job, which is an async task, waits in the queue of the job
until the job is polled.
-/

namespace Stragglers

/-- A setting asked for in a scenario: where a baseline was captured before, by its name. -/
inductive Wanted where
  | request (r : Request)
  | baseline (name : String)

/-- What a scenario asks for. Most commands name the tracker that they are about. -/
inductive Command where
  /-- A new tracker goes by this name. -/
  | newTracker (name : String)
  /-- A clone of a tracker goes by this name and shares its registry. -/
  | cloneTracker (tracker name : String)
  /-- The tracker of the whole process goes by this name. -/
  | sharedTracker (name : String)
  /-- A thread with this entry is spawned, with a name of its own or without, and goes by `job`. -/
  | spawnThread (tracker job : String) (threadName : Option String) (entry site : String)
  /-- An async task with this entry is spawned and goes by `job`. -/
  | spawnTask (tracker job entry site : String)
  | snapshot (tracker : String)
  | states (tracker : String)
  | size (tracker : String)
  | current (tracker : String)
  /-- The running task enters a state; the guard is kept under a name, in place of one that is there. -/
  | enterState (tracker state guard : String)
  | dropGuard (guard : String)
  /-- The tasks alive right now become a baseline of this name. -/
  | baseline (tracker name : String)
  | find (tracker : String) (wanted : List Wanted)
  /-- The thread or the job of this name returns. -/
  | finish (name : String)
  /-- The thread or the job of this name panics. -/
  | panic (name message : String)
  | abort (job : String)
  | joinTask (job : String)
  | shutdown

/-- How a job ends. -/
inductive JobEnd where
  | finished
  | panicked (message : String)
  | cancelled
deriving DecidableEq, Repr

/-- What is found when a thread or a job is joined. -/
inductive Joined where
  /-- It has not ended. -/
  | pending
  | ended (how : JobEnd)
  /-- It has been joined before. -/
  | already
deriving DecidableEq, Repr

/-- The answer to a command. -/
inductive Answer where
  | done
  | same
  /-- The command panics with this message. -/
  | panicked (message : String)
  | records (tasks : List TaskRecord)
  | states (tasks : List TaskRecord)
  | size (n : Nat)
  | current (task : Option TaskId)
  | whether (b : Bool)
  | queued (b : Bool)
  | error (e : SnapshotError)
  /-- What a check found, or why its settings could not be made. -/
  | found (result : Except SnapshotError (Except LeakError Unit))
  | joined (j : Joined)
  /-- A name that the command needs is not known. -/
  | unknown

/-- What waits in the queue of a job. -/
inductive Order where
  | run (c : Command)
  | finish
  | panic (message : String)

/-- A job of a scenario. -/
structure Job where
  /-- The async task that it is. -/
  future : Nat
  /-- What its next poll does. -/
  queue : List Order
  aborted : Bool
  ended : Option JobEnd
  joined : Bool

/-- The state of a scenario. -/
structure Scenario where
  world : Tracking
  nextTracker : Nat
  trackers : List (String × Nat)
  threads : List (String × Nat)
  jobs : List (String × Job)
  /-- The jobs to be polled, in their order. -/
  scheduled : List String
  guards : List (String × Nat)
  baselines : List (String × Setting)

namespace Scenario

/-- The tracker of the whole process. -/
def sharedTracker : Nat := 0

/-- The thread that a scenario begins on. -/
def mainThread : Nat := 0

/-- A scenario in which one tracker goes by this name. -/
def start (tracker : String) : Scenario where
  world := Tracking.start
  nextTracker := 2
  trackers := [(tracker, 1)]
  threads := []
  jobs := []
  scheduled := []
  guards := []
  baselines := []

/-- The entries of a list of names with one name set. -/
def assign {α : Type} (name : String) (a : α) (entries : List (String × α)) : List (String × α) :=
  (name, a) :: entries.filter fun e => e.1 ≠ name

/-- With an act done; what is told of it. -/
def act (s : Scenario) (a : Act) : Scenario × List Notice :=
  let (world, notices) := s.world.step a
  ({ s with world := world }, notices)

/-- With several acts done, one after the other. -/
def acts (s : Scenario) : List Act → Scenario × List Notice
  | [] => (s, [])
  | a :: as =>
    let (s, notices) := s.act a
    let (s, more) := s.acts as
    (s, notices ++ more)

/-- With a job set. -/
def setJob (s : Scenario) (name : String) (job : Job) : Scenario :=
  { s with jobs := assign name job s.jobs }

/-- With a job scheduled, behind those that are. -/
def schedule (s : Scenario) (name : String) : Scenario :=
  { s with scheduled := if name ∈ s.scheduled then s.scheduled else s.scheduled ++ [name] }

/-- The job of this name, if it has not ended. -/
def liveJob? (s : Scenario) (name : String) : Option Job :=
  (s.jobs.lookup name).filter (·.ended.isNone)

/-- With an order at the end of the queue of a job; whether the job was alive. -/
def enqueue (s : Scenario) (name : String) (order : Order) : Scenario × Answer :=
  match s.liveJob? name with
  | some job => ((s.setJob name { job with queue := job.queue ++ [order] }).schedule name, .queued true)
  | none => (s, .queued false)

end Scenario

end Stragglers
