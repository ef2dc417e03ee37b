import Stragglers.Proofs.Benign
import Stragglers.Proofs.Tracking.Interference
import Stragglers.Proofs.Tracking.SpawnFrames
import Stragglers.Proofs.Tracking.States

/-!
# Benign tasks of trackers

The frames of a registered task are those that its call took, so that its chain ends in the exit of all tasks (`OfSpawn`). The state
in which a task is shown is one that the tracker writes by itself, or one that the task has entered (`Stated`): no other state comes
back when a guard is dropped, since a guard keeps a state in which its task was shown.
-/

namespace Stragglers

/-! ## Frames -/

/-- The frames are those of some spawn. -/
def OfSpawn (frames : List Frame) : Prop :=
  ∃ name entry site, frames = spawnFrames name entry site

/-- The exit of all tasks is at the bottom, whatever the names above it are. -/
theorem OfSpawn.getLast?_eq {frames : List Frame} (h : OfSpawn frames) :
    frames.getLast? = some (.named FunctionName.taskExit) := by
  obtain ⟨name, entry, site, rfl⟩ := h
  rw [spawnFrames, List.getLast?_concat]

namespace TaskRecord

variable {r : TaskRecord}

/-- A record with the frames of a spawn is not that of a main thread that waits. -/
theorem isBlockedMain_of_ofSpawn (h : OfSpawn r.frames) : r.isBlockedMain = false := by
  have hne : (FunctionName.taskExit == FunctionName.mainEntry) = false := by decide
  rw [isBlockedMain, h.getLast?_eq]
  simp only [Frame.named, hne, Bool.false_and]

/-- A record with the frames of a spawn is in a system call if its state says so. -/
theorem isSyscall_of_ofSpawn (h : OfSpawn r.frames) : r.isSyscall = r.stateBegins TaskState.syscall := by
  have hexit : r.hasFunction FunctionName.taskExit = true :=
    List.any_eq_true.mpr ⟨_, List.mem_of_getLast? h.getLast?_eq, beq_self_eq_true _⟩
  rw [isSyscall, hexit, Bool.true_and]

end TaskRecord

namespace Tracking

variable {w : Tracking} {a : Act} {acts : List Act} {h : Handle} {state : String}

/-- A snapshot shows tasks with frames of spawns. -/
theorem ofSpawn_of_mem_records {t : Nat} {r : TaskRecord} (hr : r ∈ ((start.run acts).registry t).records) :
    OfSpawn r.frames := by
  obtain ⟨spawn, entry, site, -, -, hframes⟩ := exists_call_of_mem_records hr
  exact ⟨spawn.name?, entry, site, hframes⟩

/-! ## States -/

/-- The states that a tracker writes by itself. -/
def ownStates : List String := [TaskState.running, TaskState.runnable, TaskState.idle]

/-- Tasks are registered in states that trackers set of their own. -/
theorem spawn_state_mem (spawn : Spawn) : spawn.state ∈ ownStates := by
  cases spawn with
  | thread => exact List.mem_cons_self
  | future => exact List.mem_cons_of_mem _ List.mem_cons_self

/-- In this run the task entered the state, and was given a guard. -/
def Entered (acts : List Act) (h : Handle) (state : String) : Prop :=
  ∃ w n g, (w, .enterState n h.tracker state) ∈ start.moments acts ∧ w.guardFor? n h.tracker = some g ∧ g.task = h

theorem Entered.concat (he : Entered acts h state) (a : Act) : Entered (acts ++ [a]) h state := by
  obtain ⟨w, n, g, hmem, hguard, htask⟩ := he
  refine ⟨w, n, g, ?_, hguard, htask⟩
  rw [moments_concat]
  exact List.mem_append_left _ hmem

theorem tracker_of_guardFor? {n t : Nat} {g : Guard} (hguard : w.guardFor? n t = some g) : g.task.tracker = t := by
  rw [guardFor?] at hguard
  split at hguard
  · obtain ⟨previous, -, rfl⟩ := Option.map_eq_some_iff.mp hguard
    rfl
  · cases hguard

/-- The tracker writes the state by itself, or the task has entered it. -/
def Explained (acts : List Act) (h : Handle) (state : String) : Prop :=
  state ∈ ownStates ∨ Entered acts h state

/-- A state that is explained stays so behind another act. -/
theorem Explained.concat (he : Explained acts h state) (a : Act) : Explained (acts ++ [a]) h state :=
  he.imp_right fun he => he.concat a

/-- The states that are shown, and those that guards put back, are explained. -/
structure Stated (acts : List Act) : Prop where
  shown : ∀ {h state}, (start.run acts).shownState? h = some state → Explained acts h state
  kept : ∀ {i g}, (i, g) ∈ (start.run acts).guards → Explained acts g.task g.previous

theorem stated_start : Stated [] where
  shown h := by cases h
  kept h := by cases h

/-- A state that an act writes is explained after it. -/
theorem Stated.explained_of_writes (hs : Stated acts) (hw : (start.run acts).Writes h a state) :
    Explained (acts ++ [a]) h state := by
  cases hw with
  | registered => exact Or.inl (spawn_state_mem _)
  | pollBegun => exact Or.inl (by decide)
  | pollPending => exact Or.inl (by decide)
  | entered hguard htask =>
    obtain rfl := tracker_of_guardFor? hguard
    subst htask
    refine Or.inr ⟨start.run acts, _, _, ?_, hguard, rfl⟩
    rw [moments_concat]
    exact List.mem_append_right _ (List.mem_singleton.mpr rfl)
  | putBack hguard htask =>
    subst htask
    exact (hs.kept (mem_of_lookup hguard)).concat _

/-- Every act keeps states and guards explained. -/
theorem Stated.concat (hs : Stated acts) (a : Act) : Stated (acts ++ [a]) where
  shown {h state} hshown := by
    rw [run_concat] at hshown
    have hl : ((start.run acts).step a).1.Lists h := isSome_shownState?_iff.mp (hshown ▸ rfl)
    rcases writes_or_same hl with ⟨written, hwrites, hwritten⟩ | ⟨-, -, hsame⟩
    · obtain rfl : written = state := Option.some.inj (hwritten.symm.trans hshown)
      exact hs.explained_of_writes hwrites
    · exact (hs.shown (hsame ▸ hshown)).concat a
  kept {i g} hmem := by
    rw [run_concat] at hmem
    rcases guard_of_becomes (becomes_step _ a) hmem with hmem | ⟨n, t, entered, -, hguard⟩
    · exact (hs.kept hmem).concat a
    · -- a new guard keeps the state that was shown
      exact (hs.shown (lists_of_guardFor? hguard).2.1).concat a

/-- After every run all states are explained. -/
theorem stated_run (acts : List Act) : Stated acts := by
  induction acts using List.reverseRecOn with
  | nil => exact stated_start
  | append_singleton acts a ih => exact ih.concat a

/-! ## Records -/

section records

variable {t : Nat} {r : TaskRecord}

/-- A record is in a state that is explained. -/
theorem explained_of_mem_records (hr : r ∈ ((start.run acts).registry t).records) : Explained acts ⟨t, r.id⟩ r.state := by
  refine (stated_run acts).shown ?_
  rw [shownState?_eq]
  exact Registry.state?_of_mem_records (ordered_run acts t) hr

/-- Only a task that has entered a state is in a state that begins as one in a system call. -/
theorem entered_of_begins_syscall (hr : r ∈ ((start.run acts).registry t).records)
    (hbegins : r.stateBegins TaskState.syscall = true) : Entered acts ⟨t, r.id⟩ r.state := by
  have hown : ∀ state ∈ ownStates, TaskState.syscall.toList.isPrefixOf state.toList = false := by decide
  rcases explained_of_mem_records hr with hstate | hentered
  · rw [TaskRecord.stateBegins, hown r.state hstate] at hbegins
    cases hbegins
  · exact hentered

end records

end Tracking

end Stragglers
