import Stragglers.Benign

/-!
# Which kind of benign task

The kinds of benign tasks are tried in order, so a task is of a kind if it is of none before it. A state that begins as one in a
system call does not begin as one on a channel, so that such a task is of no kind before, unless it is a blocked main thread.
-/

namespace Stragglers.TaskRecord

variable {t : TaskRecord}

theorem stateBegins_iff {words : String} : t.stateBegins words = true ↔ words.toList <+: t.state.toList :=
  List.isPrefixOf_iff_prefix

/-- The kinds one after the other. -/
theorem benign?_eq (t : TaskRecord) :
    t.benign? =
      if t.isTestHarness then some .testHarness else if t.isSyscall then some .syscall else if t.isSignal then some .stdLib
      else if t.isTraceWriter then some .trace else none := by
  simp only [benign?, Benign.all, List.find?_cons, List.find?_nil, Benign.holds]
  cases t.isTestHarness <;> cases t.isSyscall <;> cases t.isSignal <;> cases t.isTraceWriter <;> rfl

theorem benign?_eq_testHarness_iff : t.benign? = some .testHarness ↔ t.isTestHarness = true := by
  grind [benign?_eq]

theorem benign?_eq_syscall_iff : t.benign? = some .syscall ↔ t.isTestHarness = false ∧ t.isSyscall = true := by
  grind [benign?_eq]

/-- A task is benign if it is of any kind. -/
theorem isSome_benign?_iff :
    t.benign?.isSome ↔ t.isTestHarness = true ∨ t.isSyscall = true ∨ t.isSignal = true ∨ t.isTraceWriter = true := by
  grind [benign?_eq]

/-- No state begins both ways. -/
theorem not_begins_chanReceive (h : t.stateBegins TaskState.syscall = true) : t.stateBegins TaskState.chanReceive = false := by
  rw [Bool.eq_false_iff]
  intro hchan
  rcases List.prefix_or_prefix_of_prefix (stateBegins_iff.mp h) (stateBegins_iff.mp hchan) with hpre | hpre
  · exact absurd hpre (by decide)
  · exact absurd hpre (by decide)

/-- A task in a system call is taken for one unless it is the blocked main thread. -/
theorem benign?_eq_syscall_of_not_blockedMain (hmain : t.isBlockedMain = false) :
    t.benign? = some .syscall ↔ t.isSyscall = true := by
  rw [benign?_eq_syscall_iff]
  refine ⟨And.right, fun hsyscall => ⟨?_, hsyscall⟩⟩
  have hbegins : t.stateBegins TaskState.syscall = true := (Bool.and_eq_true_iff.mp hsyscall).2
  rw [isTestHarness, not_begins_chanReceive hbegins, hmain, Bool.and_false, Bool.or_false]

end Stragglers.TaskRecord
