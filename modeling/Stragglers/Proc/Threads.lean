import Stragglers.Proc.FileTree
import Stragglers.Proc.Path
import Stragglers.Proc.Stat
import Stragglers.Source
import Stragglers.Text.Decimal

/-!
# Threads of a process directory

The threads of a process as its directory under `/proc` lists them. The kernel shows no call chain, so the frames of a thread
are its name, the kernel function it waits in if one is shown, and what all threads end in. A thread whose files cannot be
read is left out and told of: it may have ended after the directory was listed.
-/

namespace Stragglers

/-- A process directory. -/
structure ProcDirectory where
  /-- The path under which messages name it. -/
  root : String
  files : FileTree
  /-- The link beside it that leads to the thread that asks. -/
  selfLink : Option String

namespace ProcDirectory

/-- The place that is given to a kernel function. -/
def kernelLocation : String := "[kernel]"

/-- The number of the process, which its status line begins with. -/
def pid? (d : ProcDirectory) : Option UInt64 :=
  match d.files.readText ["stat"] with
  | .ok stat => (Text.firstWord? stat.toList).bind Text.unsigned?
  | .error _ => none

/-- The text of a file of a thread. -/
def threadFile (d : ProcDirectory) (name file : String) : Except ThreadFault String :=
  let path := ["task", name, file]
  match d.files.readText path with
  | .ok s => .ok s
  | .error cause => .error (.unread (Path.joinAll d.root path) cause)

/-- The kernel function that a thread waits in: none if the kernel hides it or shows nothing or a zero. -/
def waitChannel? (d : ProcDirectory) (name : String) : Option String :=
  match d.files.readText ["task", name, "wchan"] with
  | .ok s =>
    let channel := Text.trim s
    if channel = "" ∨ channel = "0" then none else some channel
  | .error _ => none

/-- The frames of a thread: its name, what it waits in, and the entry of the main thread or the exit of all others. -/
def threadFrames (name : String) (channel : Option String) (isMain : Bool) : List Frame :=
  Frame.named name :: (channel.map (Frame.located · kernelLocation)).toList ++
    [Frame.named (if isMain then FunctionName.mainEntry else FunctionName.taskExit)]

/-- The thread under this name, which stands for this number. -/
def thread (d : ProcDirectory) (name : String) (id : UInt64) : Except ThreadFault TaskRecord := do
  let comm ← d.threadFile name "comm"
  let letter ← Stat.stateLetter (← d.threadFile name "stat")
  let channel := d.waitChannel? name
  return TaskRecord.of ⟨id⟩ (Stat.threadState letter channel)
    (threadFrames (Text.trim comm) channel (d.pid? == some id))

/-- The names of a listing that are numbers, with their numbers. -/
def numbered (children : List (String × FileTree)) : List (String × UInt64) :=
  children.filterMap fun child => (Text.unsigned? child.1.toList).map (child.1, ·)

/-- Each thread that can be read, and the fault of each other. -/
def threads (d : ProcDirectory) (children : List (String × FileTree)) : List (UInt64 × Except ThreadFault TaskRecord) :=
  (numbered children).map fun n => (n.2, d.thread n.1 n.2)

/-- The order of snapshots. -/
def idLE (a b : TaskRecord) : Bool :=
  decide (a.id.val ≤ b.id.val)

/-- The threads in the order of their numbers; only a directory that cannot be listed is an error. -/
def shot (d : ProcDirectory) : Shot :=
  match d.files.list ["task"] with
  | .error cause => ⟨.error (.unreadable (Path.join d.root "task") cause), []⟩
  | .ok children =>
    let found := d.threads children
    { outcome := .ok ((found.filterMap fun t => t.2.toOption).mergeSort idLE)
      notices := found.filterMap fun t =>
        match t.2 with
        | .ok _ => none
        | .error fault => some (.skipped t.1 fault) }

/-- The thread that asks, whose number is the last name of the link. -/
def current? (d : ProcDirectory) : Option TaskId :=
  (((d.selfLink.bind Path.lastName?)).bind Text.unsigned?).map TaskId.mk

/-- The directory as a source, while nothing in it changes. -/
def source (d : ProcDirectory) : Source :=
  .steady d.shot d.current?

end ProcDirectory

end Stragglers
