import Stragglers.Proofs.Proc.Benign
import Stragglers.Proofs.Proc.ThreadName
import Stragglers.Proofs.Tracking.Benign
import Stragglers.Proofs.Tracking.Isolation

/-!
# What the sources let be excused

The kinds of benign tasks are told by names and states, and a source decides which of them a task can have. Taken together, this
bounds the leaks that the kinds can hide: a thread is never taken for one in a system call, and a task of a tracker only if it
said so itself.
-/

namespace Stragglers

open Tracking (start)

/-- A record in a snapshot of a process directory is that of an entry of the listing. It is never taken for a task in a system
call; it is of a test harness if it waits on a channel under one of the harness's names, or has the number of the process and waits
on a channel or on what is not known; and otherwise it is benign if its name is one of signal delivery or trace writing, or its name
or wait channel is the function that registers signals.

A record in a snapshot of a tracker, after whatever acts, is never that of a blocked main thread. It is taken for a task in a system
call if its state begins as that of one, and then the task has entered that very state. -/
theorem benign_kinds_of_sources :
    (∀ (d : ProcDirectory) (records : List TaskRecord), d.shot.outcome = .ok records → ∀ r ∈ records,
      ∃ children entry comm, d.files.list ["task"] = .ok children ∧ (entry, r.id.val) ∈ ProcDirectory.numbered children ∧
        d.thread entry r.id.val = .ok r ∧ d.threadFile entry "comm" = .ok comm ∧
        r.benign? ≠ some .syscall ∧
        (r.benign? = some .testHarness ↔
          (r.state = TaskState.chanReceive ∧ Text.trim comm ∈ FunctionName.testHarness) ∨
            (d.pid? = some r.id.val ∧ (r.state = TaskState.chanReceive ∨ r.state = TaskState.waiting))) ∧
        (r.benign? ≠ some .testHarness →
          (r.benign?.isSome ↔
            Text.trim comm ∈ FunctionName.signalDelivery ∨ Text.trim comm ∈ FunctionName.traceWriter ∨
              Text.trim comm = FunctionName.signalRegistration ∨
              d.waitChannel? entry = some FunctionName.signalRegistration))) ∧
    ∀ (acts : List Act) (t : Nat) (records : List TaskRecord), ((start.run acts).shot t).outcome = .ok records →
      ∀ r ∈ records,
        r.isBlockedMain = false ∧
        (r.isSyscall = true ↔ TaskState.syscall.toList <+: r.state.toList) ∧
        (r.benign? = some .syscall ↔ TaskState.syscall.toList <+: r.state.toList) ∧
        (TaskState.syscall.toList <+: r.state.toList →
          ∃ w n g, (w, .enterState n t r.state) ∈ start.moments acts ∧ w.guardFor? n t = some g ∧ g.task = ⟨t, r.id⟩) := by
  constructor
  · intro d records houtcome r hr
    obtain ⟨children, entry, hlist, hentry, hthread⟩ := ProcDirectory.thread_of_mem_shot houtcome hr
    obtain ⟨comm, -, hcomm, -⟩ := ProcDirectory.read_of_thread hthread
    refine ⟨children, entry, comm, hlist, hentry, hthread, hcomm, ?_, ?_, fun hharness => ?_⟩
    · intro hsyscall
      have hno := (TaskRecord.benign?_eq_syscall_iff.mp hsyscall).2
      rw [ProcDirectory.isSyscall_thread hthread] at hno
      cases hno
    · rw [TaskRecord.benign?_eq_testHarness_iff]
      exact ProcDirectory.isTestHarness_thread_iff hthread hcomm
    · rw [ne_eq, TaskRecord.benign?_eq_testHarness_iff, Bool.not_eq_true] at hharness
      exact ProcDirectory.isSome_benign?_thread_iff hthread hcomm hharness
  · intro acts t records houtcome r hr
    obtain rfl : ((start.run acts).registry t).records = records := Except.ok.inj houtcome
    have hframes := Tracking.ofSpawn_of_mem_records hr
    have hmain := TaskRecord.isBlockedMain_of_ofSpawn hframes
    have hsyscall : r.isSyscall = true ↔ TaskState.syscall.toList <+: r.state.toList := by
      rw [TaskRecord.isSyscall_of_ofSpawn hframes, TaskRecord.stateBegins_iff]
    refine ⟨hmain, hsyscall, ?_, fun hbegins => ?_⟩
    · rw [TaskRecord.benign?_eq_syscall_of_not_blockedMain hmain, hsyscall]
    · exact Tracking.entered_of_begins_syscall hr (TaskRecord.stateBegins_iff.mpr hbegins)

/-- A thread is spawned and enters the state of a system call. -/
def readingRun : List Act :=
  Tracking.workerRun ++ [.enterState 1 1 "syscall: read"]

theorem signal_thread_and_reading_task_benign :
    (∃ records, (ProcDirectory.sleeping "ctrl-c").shot.outcome = .ok records ∧ ∃ r ∈ records, r.benign?.isSome) ∧
      ∃ records, ((start.run readingRun).shot 1).outcome = .ok records ∧ ∃ r ∈ records, r.benign? = some .syscall := by
  obtain ⟨hthreads, htasks⟩ := benign_kinds_of_sources
  constructor
  · have hshows := ProcDirectory.shows_sleeping "ctrl-c"
    obtain ⟨records, houtcome, hrecords⟩ := ProcDirectory.exists_records hshows.lists
    obtain ⟨r, kept, hthread, -, hbytes, htop⟩ := hshows.thread_of_keptWhole (Or.inl (by decide))
    have hr : r ∈ records := (hrecords r).mpr ⟨"5", 5, hshows.mem_numbered, hthread⟩
    obtain ⟨-, entry, comm, -, -, hthread', hcomm, -, -, hother⟩ := hthreads _ records houtcome r hr
    refine ⟨records, houtcome, r, hr, ?_⟩
    by_cases hharness : r.benign? = some .testHarness
    · rw [hharness]
      rfl
    · obtain rfl : kept = "ctrl-c" := String.toByteArray_inj.mp hbytes
      have hname : Text.trim comm = "ctrl-c" := by
        rw [← ProcDirectory.topFunction_of_thread hthread' hcomm, htop]
        decide
      exact (hother hharness).mpr (Or.inl (hname ▸ by decide))
  · obtain ⟨records, r, houtcome, hr, hstate⟩ : ∃ records r, ((start.run readingRun).shot 1).outcome = .ok records ∧
        r ∈ records ∧ r.state = "syscall: read" := ⟨_, _, rfl, List.mem_singleton.mpr rfl, rfl⟩
    obtain ⟨-, -, hsyscall, -⟩ := htasks readingRun 1 records houtcome r hr
    exact ⟨records, houtcome, r, hr, hsyscall.mpr (hstate ▸ by decide)⟩

end Stragglers
