import Stragglers.Rule
import Stragglers.Task.Names

/-!
# Benign tasks

Tasks that outlive every test for reasons that are not the caller's: those of the test harness, native helpers in a system
call, signal delivery, and trace writers. A test that accepts too much hides a leak, so each kind asks for the narrowest sign
it can: an exact name, and with a name that other tasks could have also a state.
-/

namespace Stragglers

/-- The kinds of benign tasks. -/
inductive Benign where
  | testHarness | syscall | stdLib | trace
deriving DecidableEq, Repr

namespace TaskRecord

/-- The state begins with these words. -/
def stateBegins (t : TaskRecord) (words : String) : Bool :=
  words.toList.isPrefixOf t.state.toList

/-- The chain ends in the entry of the main thread, and the thread idles as it does while tests run. -/
def isBlockedMain (t : TaskRecord) : Bool :=
  (match t.frames.getLast? with
    | some f => f.function == FunctionName.mainEntry
    | none => false) && TaskState.idleMain.any t.stateBegins

/-- A function of the test harness waits on a channel, or the main thread is blocked. -/
def isTestHarness (t : TaskRecord) : Bool :=
  (FunctionName.testHarness.contains t.topFunction && t.stateBegins TaskState.chanReceive) || t.isBlockedMain

/-- A task with the exit frame is in a system call. -/
def isSyscall (t : TaskRecord) : Bool :=
  t.hasFunction FunctionName.taskExit && t.stateBegins TaskState.syscall

/-- Signals are delivered on top of the chain, or registered somewhere in it. -/
def isSignal (t : TaskRecord) : Bool :=
  FunctionName.signalDelivery.contains t.topFunction || t.hasFunction FunctionName.signalRegistration

/-- A trace writer is on top of the chain. -/
def isTraceWriter (t : TaskRecord) : Bool :=
  FunctionName.traceWriter.contains t.topFunction

end TaskRecord

namespace Benign

/-- All kinds, in the order in which they are tried. -/
def all : List Benign := [.testHarness, .syscall, .stdLib, .trace]

/-- The name of a kind. -/
def label : Benign → String
  | .testHarness => "test-harness"
  | .syscall => "syscall"
  | .stdLib => "std-lib"
  | .trace => "trace"

/-- The task is of this kind. -/
def holds : Benign → TaskRecord → Bool
  | .testHarness => TaskRecord.isTestHarness
  | .syscall => TaskRecord.isSyscall
  | .stdLib => TaskRecord.isSignal
  | .trace => TaskRecord.isTraceWriter

/-- The kind as a rule. -/
def rule (kind : Benign) : Rule :=
  ⟨kind.label, kind.holds⟩

/-- The rules of all kinds. -/
def rules : List Rule :=
  all.map rule

/-- The kind of this name. -/
def ofLabel? (label : String) : Option Benign :=
  all.find? (·.label == label)

end Benign

/-- The first kind that a task is of. -/
def TaskRecord.benign? (t : TaskRecord) : Option Benign :=
  Benign.all.find? (·.holds t)

end Stragglers
