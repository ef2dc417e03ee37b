import Stragglers.Scenario.Basic

/-!
# Commands performed

What each command of a scenario does on the thread that it runs on, and what it answers.
-/

namespace Stragglers.Scenario

/-- What a command makes of a scenario, its answer, and what is told on the way. -/
structure Performed where
  scenario : Scenario
  answer : Answer
  notices : List Notice

/-- A command that only answers. -/
def answering (s : Scenario) (a : Answer) : Performed :=
  ⟨s, a, []⟩

/-- The requests for what is wanted, if all names are known. -/
def requests? (s : Scenario) (wanted : List Wanted) : Option (List Request) :=
  wanted.mapM fun
    | .request r => some r
    | .baseline name => (s.baselines.lookup name).map .given

/-- A call that spawns, from the number that it takes to the launch. -/
def spawn (s : Scenario) (tracker : Nat) (what : Spawn) (entry site : String) : Scenario × List Notice :=
  let task := s.world.nextHandle tracker
  s.acts [.call tracker what entry site, .register task, .launch task true]

/-- Spawns a thread, which begins at once. -/
def spawnThread (s : Scenario) (tracker : Nat) (job : String) (threadName : Option String) (entry site : String) :
    Performed :=
  let thread := s.world.nextThread
  let (s, notices) := s.spawn tracker (.thread threadName) entry site
  match Tracking.nameFailure? threadName with
  | some failure => ⟨s, .panicked failure.message, notices⟩
  | none =>
    let (s, more) := s.act (.beginThread thread)
    ⟨{ s with threads := assign job thread s.threads }, .done, notices ++ more⟩

/-- Spawns an async task, which is scheduled. -/
def spawnTask (s : Scenario) (tracker : Nat) (job entry site : String) : Performed :=
  let future := s.world.nextFuture
  let (s, notices) := s.spawn tracker .future entry site
  if s.world.hasRuntime then ⟨(s.setJob job ⟨future, [], false, none, false⟩).schedule job, .done, notices⟩
  else ⟨s, .panicked SpawnFailure.noRuntime.message, notices⟩

/-- Drops the guard of this name. -/
def dropGuard (s : Scenario) (guard : String) : Performed :=
  match s.guards.lookup guard with
  | some g =>
    let (s, notices) := s.act (.dropGuard g)
    ⟨{ s with guards := s.guards.filter fun e => e.1 ≠ guard }, .whether true, notices⟩
  | none => s.answering (.whether false)

/-- The task that runs on the thread enters a state; a guard of this name is dropped when the state is set. -/
def enterState (s : Scenario) (thread tracker : Nat) (state guard : String) : Performed :=
  match s.world.guardFor? thread tracker with
  | some _ =>
    let new := s.world.nextGuard
    let (s, notices) := s.act (.enterState thread tracker state)
    let dropped := s.dropGuard guard
    ⟨{ dropped.scenario with guards := assign guard new dropped.scenario.guards }, .whether true,
      notices ++ dropped.notices⟩
  | none => s.answering (.whether false)

/-- The tasks alive right now become a baseline. -/
def captureBaseline (s : Scenario) (tracker : Nat) (name : String) : Performed :=
  let captured := Setting.ignoreCurrent (s.world.shot tracker)
  match captured.value with
  | .ok setting => ⟨{ s with baselines := assign name setting s.baselines }, .done, captured.notices⟩
  | .error e => ⟨s, .error e, captured.notices⟩

/-- A check of a tracker on the thread. -/
def findOn (s : Scenario) (thread tracker : Nat) (wanted : List Wanted) : Performed :=
  match s.requests? wanted with
  | some requests =>
    let made := Request.settings (s.world.source thread tracker) requests
    match made.value with
    | .ok (settings, source) =>
      let found := find source settings
      ⟨s, .found (.ok found.value), made.notices ++ found.notices⟩
    | .error e => ⟨s, .found (.error e), made.notices⟩
  | none => s.answering .unknown

/-- A thread ends and is joined; an order to end waits in the queue of a job. -/
def endNamed (s : Scenario) (name : String) (how : JobEnd) (order : Order) : Performed :=
  match s.threads.lookup name with
  | some thread =>
    let (s, notices) := s.act (.endThread thread)
    ⟨{ s with threads := s.threads.filter fun e => e.1 ≠ name }, .joined (.ended how), notices⟩
  | none =>
    let (s, answer) := s.enqueue name order
    s.answering answer

/-- A job is to be dropped when it is polled next; whether it was alive. -/
def abort (s : Scenario) (name : String) : Performed :=
  match s.liveJob? name with
  | some job => ((s.setJob name { job with aborted := true }).schedule name).answering (.whether true)
  | none => s.answering (.whether false)

/-- How a job ended, unless that was asked before. -/
def joinTask (s : Scenario) (name : String) : Performed :=
  match s.jobs.lookup name with
  | none => s.answering .unknown
  | some job =>
    match job.ended with
    | none => s.answering (.joined .pending)
    | some how =>
      if job.joined then s.answering (.joined .already)
      else (s.setJob name { job with joined := true }).answering (.joined (.ended how))

/-- The runtime ends, and all jobs with it; whether there was one. -/
def shutdown (s : Scenario) : Performed :=
  if s.world.hasRuntime then
    let (s, notices) := s.act .shutdown
    let cancel (job : Job) : Job := { job with ended := job.ended <|> some .cancelled, queue := [] }
    ⟨{ s with jobs := s.jobs.map fun e => (e.1, cancel e.2), scheduled := [] }, .whether true, notices⟩
  else s.answering (.whether false)

/-- With a name for a tracker. -/
def nameTracker (s : Scenario) (name : String) (tracker : Nat) : Scenario :=
  { s with trackers := assign name tracker s.trackers }

/-- A command about the tracker of this name, if there is one. -/
def onTracker (s : Scenario) (name : String) (f : Nat → Performed) : Performed :=
  match s.trackers.lookup name with
  | some tracker => f tracker
  | none => s.answering .unknown

/-- A command on a thread. -/
def perform (s : Scenario) (thread : Nat) : Command → Performed
  | .newTracker name =>
    ({ s with nextTracker := s.nextTracker + 1 }.nameTracker name s.nextTracker).answering .done
  | .cloneTracker tracker name => s.onTracker tracker fun t => (s.nameTracker name t).answering .done
  | .sharedTracker name => (s.nameTracker name sharedTracker).answering .same
  | .spawnThread tracker job threadName entry site =>
    s.onTracker tracker fun t => s.spawnThread t job threadName entry site
  | .spawnTask tracker job entry site => s.onTracker tracker fun t => s.spawnTask t job entry site
  | .snapshot tracker => s.onTracker tracker fun t => s.answering (.records (s.world.registry t).records)
  | .states tracker => s.onTracker tracker fun t => s.answering (.states (s.world.registry t).records)
  | .size tracker => s.onTracker tracker fun t => s.answering (.size (s.world.registry t).size)
  | .current tracker => s.onTracker tracker fun t => s.answering (.current (s.world.current? thread t))
  | .enterState tracker state guard => s.onTracker tracker fun t => s.enterState thread t state guard
  | .dropGuard guard => s.dropGuard guard
  | .baseline tracker name => s.onTracker tracker fun t => s.captureBaseline t name
  | .find tracker wanted => s.onTracker tracker fun t => s.findOn thread t wanted
  | .finish name => s.endNamed name .finished .finish
  | .panic name message => s.endNamed name (.panicked message) (.panic message)
  | .abort job => s.abort job
  | .joinTask job => s.joinTask job
  | .shutdown => s.shutdown

end Stragglers.Scenario
