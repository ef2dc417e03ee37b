import Stragglers.Proofs.Benign
import Stragglers.Proofs.Proc.Threads

/-!
# Benign threads

The record of a thread has one of eight states, none of which begins another or as the state of a system call, and its chain ends in
the entry of the main thread only if its number is that of the process. So which kind of benign task it is can be told from its
state, its name, its wait channel and its number.
-/

namespace Stragglers

/-! ## States -/

namespace Stat

/-- The states of threads. -/
def states : List String := [
  TaskState.running, TaskState.chanReceive, TaskState.sleep, TaskState.ioWait, TaskState.waiting, TaskState.stopped,
  TaskState.dead, TaskState.idle
]

theorem sleepState_mem (channel : Option String) : sleepState channel ∈ states := by
  cases channel with
  | none => decide
  | some w =>
    simp only [sleepState]
    split
    · decide
    · split
      · decide
      · split <;> decide

/-- Every thread is in one of these states. -/
theorem threadState_mem (letter : Char) (channel : Option String) : threadState letter channel ∈ states := by
  unfold threadState
  split
  case h_2 => exact sleepState_mem channel
  case h_3 => exact sleepState_mem channel
  all_goals decide

/-- No state of a thread begins another one. -/
theorem isPrefixOf_states : ∀ words ∈ states, ∀ state ∈ states, words.toList.isPrefixOf state.toList = (state == words) := by
  decide

theorem not_isPrefixOf_syscall : ∀ state ∈ states, TaskState.syscall.toList.isPrefixOf state.toList = false := by
  decide

end Stat

/-! ## Frames -/

namespace ProcDirectory

section frames

variable (name : String) (channel : Option String) (isMain : Bool)

/-- Only the last frame tells the main thread from others, whatever the frames above it are called. -/
theorem getLast?_threadFrames :
    (threadFrames name channel isMain).getLast? =
      some (.named (if isMain then FunctionName.mainEntry else FunctionName.taskExit)) := by
  rw [threadFrames, List.getLast?_concat]

/-- The functions of a thread are its name, its wait channel, and the one at the bottom. -/
theorem any_threadFrames (function : String) :
    ((threadFrames name channel isMain).any fun f => f.function == function) = true ↔
      name = function ∨ channel = some function ∨
        (if isMain then FunctionName.mainEntry else FunctionName.taskExit) = function := by
  cases channel with
  | none => simp [threadFrames, Frame.named]
  | some w => simp [threadFrames, Frame.named, Frame.located]

end frames

/-! ## Records -/

section records

variable {d : ProcDirectory} {name comm : String} {id : UInt64} {r : TaskRecord}

theorem frames_of_thread (h : d.thread name id = .ok r) (hcomm : d.threadFile name "comm" = .ok comm) :
    r.frames = threadFrames (Text.trim comm) (d.waitChannel? name) (d.pid? == some id) := by
  obtain ⟨comm', letter, hcomm', rfl⟩ := read_of_thread h
  obtain rfl : comm' = comm := Except.ok.inj (hcomm'.symm.trans hcomm)
  rfl

/-- On top of the chain of a thread is its name. -/
theorem topFunction_of_thread (h : d.thread name id = .ok r) (hcomm : d.threadFile name "comm" = .ok comm) :
    r.topFunction = Text.trim comm := by
  obtain ⟨comm', letter, hcomm', rfl⟩ := read_of_thread h
  obtain rfl : comm' = comm := Except.ok.inj (hcomm'.symm.trans hcomm)
  rfl

theorem state_mem_of_thread (h : d.thread name id = .ok r) : r.state ∈ Stat.states := by
  obtain ⟨comm, letter, -, rfl⟩ := read_of_thread h
  exact Stat.threadState_mem letter _

/-- A thread whose state begins as one of the states of threads is in that state. -/
theorem stateBegins_thread_iff (h : d.thread name id = .ok r) (words : String) (hwords : words ∈ Stat.states) :
    r.stateBegins words = true ↔ r.state = words := by
  rw [TaskRecord.stateBegins, Stat.isPrefixOf_states words hwords r.state (state_mem_of_thread h), beq_iff_eq]

/-- The blocked main thread has the number of the process, and waits on a channel or on what is not known. -/
theorem isBlockedMain_thread_iff (h : d.thread name id = .ok r) :
    r.isBlockedMain = true ↔ d.pid? = some id ∧ (r.state = TaskState.chanReceive ∨ r.state = TaskState.waiting) := by
  obtain ⟨comm, -, hcomm, -⟩ := read_of_thread h
  have hchan := stateBegins_thread_iff h TaskState.chanReceive (by decide)
  have hwaiting := stateBegins_thread_iff h TaskState.waiting (by decide)
  have hne : (FunctionName.taskExit == FunctionName.mainEntry) = false := by decide
  rw [TaskRecord.isBlockedMain, frames_of_thread h hcomm, getLast?_threadFrames]
  cases hmain : d.pid? == some id with
  | true =>
    have hpid : d.pid? = some id := beq_iff_eq.mp hmain
    simp [Frame.named, TaskState.idleMain, hchan, hwaiting, hpid]
  | false =>
    have hpid : d.pid? ≠ some id := beq_eq_false_iff_ne.mp hmain
    simp [Frame.named, hne, hpid]

/-- No thread is taken for one in a system call. -/
theorem isSyscall_thread (h : d.thread name id = .ok r) : r.isSyscall = false := by
  rw [TaskRecord.isSyscall, TaskRecord.stateBegins, Stat.not_isPrefixOf_syscall r.state (state_mem_of_thread h), Bool.and_false]

/-- A thread of a test harness has one of its names and waits on a channel, or is the blocked main thread. -/
theorem isTestHarness_thread_iff (h : d.thread name id = .ok r) (hcomm : d.threadFile name "comm" = .ok comm) :
    r.isTestHarness = true ↔
      (r.state = TaskState.chanReceive ∧ Text.trim comm ∈ FunctionName.testHarness) ∨
        (d.pid? = some id ∧ (r.state = TaskState.chanReceive ∨ r.state = TaskState.waiting)) := by
  rw [TaskRecord.isTestHarness, Bool.or_eq_true, Bool.and_eq_true, List.contains_iff_mem, isBlockedMain_thread_iff h,
    stateBegins_thread_iff h _ (by decide), topFunction_of_thread h hcomm, and_comm]

/-- A thread delivers signals by its name, or its name or wait channel is the function that registers them. -/
theorem isSignal_thread_iff (h : d.thread name id = .ok r) (hcomm : d.threadFile name "comm" = .ok comm) :
    r.isSignal = true ↔
      Text.trim comm ∈ FunctionName.signalDelivery ∨ Text.trim comm = FunctionName.signalRegistration ∨
        d.waitChannel? name = some FunctionName.signalRegistration := by
  have hbottom (isMain : Bool) :
      (if isMain then FunctionName.mainEntry else FunctionName.taskExit) ≠ FunctionName.signalRegistration := by
    cases isMain <;> decide
  rw [TaskRecord.isSignal, Bool.or_eq_true, List.contains_iff_mem, topFunction_of_thread h hcomm, TaskRecord.hasFunction,
    frames_of_thread h hcomm, any_threadFrames]
  simp only [hbottom, or_false]

theorem isTraceWriter_thread_iff (h : d.thread name id = .ok r) (hcomm : d.threadFile name "comm" = .ok comm) :
    r.isTraceWriter = true ↔ Text.trim comm ∈ FunctionName.traceWriter := by
  rw [TaskRecord.isTraceWriter, List.contains_iff_mem, topFunction_of_thread h hcomm]

/-- A thread that is not of a test harness is benign by its name, or by the function that it waits in. -/
theorem isSome_benign?_thread_iff (h : d.thread name id = .ok r) (hcomm : d.threadFile name "comm" = .ok comm)
    (hharness : r.isTestHarness = false) :
    r.benign?.isSome ↔
      Text.trim comm ∈ FunctionName.signalDelivery ∨ Text.trim comm ∈ FunctionName.traceWriter ∨
        Text.trim comm = FunctionName.signalRegistration ∨ d.waitChannel? name = some FunctionName.signalRegistration := by
  rw [TaskRecord.isSome_benign?_iff, hharness, isSyscall_thread h, isSignal_thread_iff h hcomm, isTraceWriter_thread_iff h hcomm]
  grind

end records

end ProcDirectory

end Stragglers
