import Stragglers.Source
import Stragglers.Tracking.Registry
import Stragglers.Tracking.SpawnFrames

/-!
# Tracked threads and tasks

Trackers register threads and async tasks when they are spawned and take them out when they end, by whatever way. A call that
spawns takes a number for its task, registers the task, and then launches it; if that fails, the task is taken out again. On each
thread a slot says which task runs there; it is set when a body or a poll begins and put back when it ends, so that polls may
be nested in bodies and in each other. A task may replace its state for as long as it keeps a guard; dropping the guard puts
back the state that it replaced, if the task is still registered.

What happens is one `Act` after the other (`Tracking.step`), each of which changes a registry at most once, so that the acts of
several threads may follow each other in any order. An act that is not possible, such as the end of a body that is not the
innermost on its thread, changes nothing.
-/

namespace Stragglers

/-- A registered task, with the tracker that registered it. -/
structure Handle where
  tracker : Nat
  task : TaskId
deriving DecidableEq, Repr

/-- What runs on a thread. -/
inductive Body where
  /-- The body of the thread itself. -/
  | thread
  /-- A poll of an async task. -/
  | poll (future : Nat)
deriving DecidableEq, Repr

/-- A body that has begun on a thread and not ended. -/
structure Activation where
  body : Body
  task : Handle
  /-- What the slot of the thread held before. -/
  outer : Option Handle
deriving DecidableEq, Repr

/-- What is known of a thread. -/
structure ThreadState where
  /-- The task that runs here. -/
  slot : Option Handle
  /-- The bodies that have begun, the innermost first. -/
  active : List Activation
  /-- The task of a thread that is spawned and has not begun. -/
  waiting : Option Handle
deriving DecidableEq, Repr

/-- A thread on which nothing tracked runs. -/
def ThreadState.free : ThreadState :=
  ⟨none, [], none⟩

/-- What puts back a state. -/
structure Guard where
  task : Handle
  /-- The state that was replaced. -/
  previous : String
deriving DecidableEq, Repr

/-- What a call spawns. -/
inductive Spawn where
  /-- A thread, with a name or without. -/
  | thread (name : Option String)
  /-- An async task. -/
  | future
deriving DecidableEq, Repr

/-- The name of a spawned thread, if it has one. -/
def Spawn.name? : Spawn → Option String
  | .thread name => name
  | .future => none

/-- The state that a task is registered in: an async task has yet to be polled. -/
def Spawn.state : Spawn → String
  | .thread _ => TaskState.running
  | .future => TaskState.runnable

/-- A call that is spawning a task. -/
structure Call where
  /-- The task, under the number that the call has taken. -/
  task : Handle
  spawn : Spawn
  frames : List Frame
deriving DecidableEq, Repr

/-- All trackers and what they track. -/
structure Tracking where
  registry : Nat → Registry
  /-- The calls that have taken a number and not registered their tasks. -/
  calling : List Call
  /-- The calls that have registered their tasks and not launched them. -/
  launching : List Call
  thread : Nat → ThreadState
  /-- The async tasks that are alive and not being polled. -/
  futures : List (Nat × Handle)
  /-- The guards that are kept. -/
  guards : List (Nat × Guard)
  nextThread : Nat
  nextFuture : Nat
  nextGuard : Nat
  /-- There is a runtime for async tasks. -/
  hasRuntime : Bool

/-- Why a task that was registered is not spawned. -/
inductive SpawnFailure where
  /-- The name for the thread holds a zero byte. -/
  | zeroInName (name : String)
  /-- There is no runtime for async tasks. -/
  | noRuntime
deriving DecidableEq, Repr

/-- The failure in words: with the place of the first zero byte, and all bytes of the name. -/
def SpawnFailure.message : SpawnFailure → String
  | .zeroInName name =>
    let bytes := name.toUTF8.toList
    "thread name may not contain interior null bytes: NulError(" ++ toString (bytes.idxOf 0) ++ ", [" ++
      ", ".intercalate (bytes.map fun b => toString b.toNat) ++ "])"
  | .noRuntime => "there is no reactor running, must be called from the context of a Tokio 1.x runtime"

/-- Something that happens to trackers, threads and async tasks. -/
inductive Act where
  /-- A call at this place spawns a thread or an async task with this entry, and takes a number for it. -/
  | call (tracker : Nat) (spawn : Spawn) (entry site : String)
  /-- The call that has taken this number registers its task. -/
  | register (task : Handle)
  /-- The call that has registered this task launches it. A thread is granted if the system can create one, and an async task if
  the caller has entered a runtime. -/
  | launch (task : Handle) (granted : Bool)
  /-- A spawned thread begins. -/
  | beginThread (thread : Nat)
  /-- The body of a thread returns or unwinds. -/
  | endThread (thread : Nat)
  /-- A poll of an async task begins on a thread. -/
  | beginPoll (thread future : Nat)
  /-- The innermost poll on a thread ends; unless the task is pending, it is dropped. -/
  | endPoll (thread : Nat) (pending : Bool)
  /-- An async task is dropped outside of its polls. -/
  | dropFuture (future : Nat)
  /-- The task of a tracker that runs on a thread replaces its state. -/
  | enterState (thread tracker : Nat) (state : String)
  /-- A guard is dropped. -/
  | dropGuard (guard : Nat)
  /-- The runtime ends, and with it all async tasks that are not being polled. -/
  | shutdown
deriving DecidableEq, Repr

namespace Tracking

/-- Nothing has happened yet. -/
def start : Tracking where
  registry := fun _ => Registry.empty
  calling := []
  launching := []
  thread := fun _ => ThreadState.free
  futures := []
  guards := []
  nextThread := 1
  nextFuture := 0
  nextGuard := 0
  hasRuntime := true

/-- The task of a tracker that runs on a thread. -/
def current? (w : Tracking) (thread tracker : Nat) : Option TaskId :=
  match (w.thread thread).slot with
  | some h => if h.tracker = tracker then some h.task else none
  | none => none

/-- A snapshot of a tracker. -/
def shot (w : Tracking) (tracker : Nat) : Shot :=
  .ofTasks (w.registry tracker).records

/-- A tracker as a source for a check on a thread, while nothing else happens. -/
def source (w : Tracking) (thread tracker : Nat) : Source :=
  .steady (w.shot tracker) (w.current? thread tracker)

/-! ## Changes of one part -/

/-- With the registry of one tracker replaced. -/
def setRegistry (w : Tracking) (tracker : Nat) (r : Registry) : Tracking :=
  { w with registry := fun t => if t = tracker then r else w.registry t }

/-- With the state of one thread replaced. -/
def setThread (w : Tracking) (thread : Nat) (s : ThreadState) : Tracking :=
  { w with thread := fun t => if t = thread then s else w.thread t }

/-- With one number less to give. -/
def takeNumber (w : Tracking) (tracker : Nat) : Tracking :=
  w.setRegistry tracker (w.registry tracker).takeNumber.1

/-- With the task of a call put into its registry. -/
def enlist (w : Tracking) (c : Call) : Tracking :=
  w.setRegistry c.task.tracker ((w.registry c.task.tracker).insert c.task.task c.spawn.state c.frames)

/-- With the state of a task replaced, if it is registered. -/
def setState (w : Tracking) (h : Handle) (state : String) : Tracking :=
  w.setRegistry h.tracker ((w.registry h.tracker).setState h.task state)

/-- With a task taken out of its registry. -/
def release (w : Tracking) (h : Handle) : Tracking :=
  w.setRegistry h.tracker ((w.registry h.tracker).remove h.task)

/-- What is told of a registration. -/
def trackingNotice (h : Handle) (frames : List Frame) : Notice :=
  .tracking h.task (TaskRecord.topOf frames)

/-- What is told of an end. -/
def endNotice (h : Handle) : Notice :=
  .finished h.task

/-! ## Acts -/

/-- Whether a name can be given to a thread. -/
def nameFailure? : Option String → Option SpawnFailure
  | some name => if '\x00' ∈ name.toList then some (.zeroInName name) else none
  | none => none

/-- The task that the next registration with a tracker makes. -/
def nextHandle (w : Tracking) (tracker : Nat) : Handle :=
  ⟨tracker, (w.registry tracker).takeNumber.2⟩

/-- A call takes the next number of the tracker. -/
def call (w : Tracking) (tracker : Nat) (spawn : Spawn) (entry site : String) : Tracking × List Notice :=
  let frames := spawnFrames spawn.name? entry site
  let h := w.nextHandle tracker
  ({ w.takeNumber tracker with calling := w.calling ++ [⟨h, spawn, frames⟩] }, [trackingNotice h frames])

/-- A call registers its task. -/
def register (w : Tracking) (task : Handle) : Tracking × List Notice :=
  match w.calling.find? (·.task = task) with
  | some c =>
    ({ w.enlist c with calling := w.calling.filter (·.task ≠ task), launching := w.launching ++ [c] }, [])
  | none => (w, [])

/-- Whether a call can launch its task, if it is granted. -/
def launches (w : Tracking) (c : Call) (granted : Bool) : Bool :=
  granted && match c.spawn with
    | .thread name => (nameFailure? name).isNone
    | .future => w.hasRuntime

/-- A registered task is launched: a thread waits to begin, and an async task to be polled. -/
def launched (w : Tracking) (c : Call) : Tracking :=
  match c.spawn with
  | .thread _ =>
    { w.setThread w.nextThread { w.thread w.nextThread with waiting := some c.task } with nextThread := w.nextThread + 1 }
  | .future => { w with futures := w.futures ++ [(w.nextFuture, c.task)], nextFuture := w.nextFuture + 1 }

/-- A call launches its task, or takes it out again. -/
def launch (w : Tracking) (task : Handle) (granted : Bool) : Tracking × List Notice :=
  match w.launching.find? (·.task = task) with
  | some c =>
    let rest := { w with launching := w.launching.filter (·.task ≠ task) }
    if w.launches c granted then (rest.launched c, []) else (rest.release c.task, [endNotice c.task])
  | none => (w, [])

/-- The body of a spawned thread begins. -/
def beginThread (w : Tracking) (thread : Nat) : Tracking × List Notice :=
  let s := w.thread thread
  match s.waiting with
  | some h => (w.setThread thread ⟨some h, ⟨.thread, h, s.slot⟩ :: s.active, none⟩, [])
  | none => (w, [])

/-- The body of a thread ends: its task is taken out, and then the slot is put back. -/
def endThread (w : Tracking) (thread : Nat) : Tracking × List Notice :=
  let s := w.thread thread
  match s.active with
  | ⟨.thread, h, outer⟩ :: rest => ((w.release h).setThread thread { s with slot := outer, active := rest }, [endNotice h])
  | _ => (w, [])

/-- The async tasks without one of them. -/
def withoutFuture (w : Tracking) (future : Nat) : Tracking :=
  { w with futures := w.futures.filter fun f => f.1 ≠ future }

/-- A poll begins: the task runs, and the slot is set. -/
def beginPoll (w : Tracking) (thread future : Nat) : Tracking × List Notice :=
  match w.futures.lookup future with
  | some h =>
    let s := w.thread thread
    (((w.withoutFuture future).setState h TaskState.running).setThread thread
      { s with slot := some h, active := ⟨.poll future, h, s.slot⟩ :: s.active }, [])
  | none => (w, [])

/-- A poll ends: the slot is put back, and the task is idle or ends. -/
def endPoll (w : Tracking) (thread : Nat) (pending : Bool) : Tracking × List Notice :=
  let s := w.thread thread
  match s.active with
  | ⟨.poll future, h, outer⟩ :: rest =>
    let w := w.setThread thread { s with slot := outer, active := rest }
    if pending then ({ w.setState h TaskState.idle with futures := w.futures ++ [(future, h)] }, [])
    else (w.release h, [endNotice h])
  | _ => (w, [])

/-- An async task ends outside of its polls. -/
def dropFuture (w : Tracking) (future : Nat) : Tracking × List Notice :=
  match w.futures.lookup future with
  | some h => ((w.withoutFuture future).release h, [endNotice h])
  | none => (w, [])

/-- The guard that entering a state gives, if the tracker has a task here that is registered. -/
def guardFor? (w : Tracking) (thread tracker : Nat) : Option Guard :=
  match w.current? thread tracker with
  | some id => ((w.registry tracker).state? id).map fun previous => ⟨⟨tracker, id⟩, previous⟩
  | none => none

/-- The state is replaced, and a guard is kept. -/
def enterState (w : Tracking) (thread tracker : Nat) (state : String) : Tracking × List Notice :=
  match w.guardFor? thread tracker with
  | some g =>
    ({ w.setState g.task state with guards := (w.nextGuard, g) :: w.guards, nextGuard := w.nextGuard + 1 }, [])
  | none => (w, [])

/-- A guard is dropped, and the state that it replaced is put back. -/
def dropGuard (w : Tracking) (guard : Nat) : Tracking × List Notice :=
  match w.guards.lookup guard with
  | some g => ({ w with guards := w.guards.filter fun g => g.1 ≠ guard }.setState g.task g.previous, [])
  | none => (w, [])

/-- The runtime ends. -/
def shutdown (w : Tracking) : Tracking × List Notice :=
  let handles := w.futures.map (·.2)
  ({ handles.foldl release w with futures := [], hasRuntime := false }, handles.map endNotice)

/-- What an act makes of the trackers, and what is told of it. -/
def step (w : Tracking) : Act → Tracking × List Notice
  | .call tracker spawn entry site => w.call tracker spawn entry site
  | .register task => w.register task
  | .launch task granted => w.launch task granted
  | .beginThread thread => w.beginThread thread
  | .endThread thread => w.endThread thread
  | .beginPoll thread future => w.beginPoll thread future
  | .endPoll thread pending => w.endPoll thread pending
  | .dropFuture future => w.dropFuture future
  | .enterState thread tracker state => w.enterState thread tracker state
  | .dropGuard guard => w.dropGuard guard
  | .shutdown => w.shutdown

/-- What one act after the other makes of the trackers. -/
def run (w : Tracking) (acts : List Act) : Tracking :=
  acts.foldl (fun w a => (w.step a).1) w

end Tracking

end Stragglers
