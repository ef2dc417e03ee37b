import Stragglers.Scenario.Perform

/-!
# Polls

A tick polls the scheduled jobs in their order; those that are scheduled meanwhile follow in the same tick. A poll runs the
queue of a job up to an order to end.
-/

namespace Stragglers.Scenario

/-- What polls make of a scenario, the answers of the commands that they ran with the names of their jobs, and what is told. -/
structure Polled where
  scenario : Scenario
  answers : List (String × Answer)
  notices : List Notice

/-- The orders of a job one after the other, and how the job ends if one of them ends it. -/
def runQueue (s : Scenario) (thread : Nat) (name : String) : List Order → Polled × Option JobEnd
  | [] => (⟨s, [], []⟩, none)
  | .finish :: _ => (⟨s, [], []⟩, some .finished)
  | .panic message :: _ => (⟨s, [], []⟩, some (.panicked message))
  | .run c :: orders =>
    let done := s.perform thread c
    let (rest, how) := done.scenario.runQueue thread name orders
    (⟨rest.scenario, (name, done.answer) :: rest.answers, done.notices ++ rest.notices⟩, how)

/-- With the end of a job noted. -/
def endJob (s : Scenario) (name : String) (how : JobEnd) : Scenario :=
  match s.jobs.lookup name with
  | some job => s.setJob name { job with ended := some how, queue := [] }
  | none => s

/-- A job that is scheduled is dropped if it was aborted, and polled otherwise. -/
def pollJob (s : Scenario) (thread : Nat) (name : String) : Polled :=
  let s := { s with scheduled := s.scheduled.filter (· ≠ name) }
  match s.liveJob? name with
  | none => ⟨s, [], []⟩
  | some job =>
    if job.aborted then
      let (s, notices) := s.act (.dropFuture job.future)
      ⟨s.endJob name .cancelled, [], notices⟩
    else
      let (s, before) := (s.setJob name { job with queue := [] }).act (.beginPoll thread job.future)
      let (ran, how) := s.runQueue thread name job.queue
      let (s, after) := ran.scenario.act (.endPoll thread how.isNone)
      ⟨match how with | some how => s.endJob name how | none => s, ran.answers, before ++ ran.notices ++ after⟩

/-- Jobs one after the other. -/
def pollAll (s : Scenario) (thread : Nat) : List String → Polled
  | [] => ⟨s, [], []⟩
  | name :: names =>
    let first := s.pollJob thread name
    let rest := first.scenario.pollAll thread names
    ⟨rest.scenario, first.answers ++ rest.answers, first.notices ++ rest.notices⟩

/-- The jobs that are scheduled, and then those that their polls scheduled; these have nothing in their queues but an end. -/
def tick (s : Scenario) (thread : Nat) : Polled :=
  let first := s.pollAll thread s.scheduled
  let rest := first.scenario.pollAll thread first.scenario.scheduled
  ⟨rest.scenario, first.answers ++ rest.answers, first.notices ++ rest.notices⟩

/-- The thread of this name, or the one that a scenario begins on. -/
def thread? (s : Scenario) (on : Option String) : Option Nat :=
  match on with
  | none => some mainThread
  | some name => s.threads.lookup name

/-- A command of a scenario: at once on a thread, or as an order in the queue of a job. -/
def command (s : Scenario) (on : Option String) (c : Command) : Performed :=
  match on, s.thread? on with
  | _, some thread => s.perform thread c
  | some job, none =>
    let (s, answer) := s.enqueue job (.run c)
    s.answering answer
  | none, none => s.answering .unknown

end Stragglers.Scenario
