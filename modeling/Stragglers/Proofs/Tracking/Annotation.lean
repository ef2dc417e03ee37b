import Stragglers.Proofs.Tracking.Isolation
import Stragglers.Proofs.Tracking.States

/-!
# Annotations of threads

A thread that enters a state shows it as an annotation until something else is written. A guard puts back what it replaced, and
that may be the annotation of another guard, dropped long before: when no guard of a thread is kept any more, the thread shows
what the guard dropped last had replaced. It is `running` again exactly if this guard was given while the thread was `running`,
so an annotation may stay for good when guards are dropped in another order than the opposite of that in which they were given.
-/

namespace Stragglers.Tracking

/-- A guard of the thread is kept, or the thread shows what the last of these guards replaced. -/
def Annotated (w : Tracking) (h : Handle) (guards : List Guard) : Prop :=
  (∃ i g, (i, g) ∈ w.guards ∧ g.task = h) ∨ w.shownState? h = some (lastReplaced TaskState.running guards)

variable {w : Tracking} {a : Act} {acts : List Act} {h : Handle} {name : Option String}

/-- One act keeps what is known of the annotations of a listed thread: an entry leaves a guard, and a drop shows what its guard
replaced. -/
theorem Annotated.step {guards : List Guard} (hw : w.Annotated h guards) (hs : w.Sound) (hn : w.Numbered) (hl : w.Lists h)
    (hl' : (w.step a).1.Lists h) (hthread : ∀ f, ¬w.Carries f h) :
    (w.step a).1.Annotated h (guards ++ (putBack? h (w, a)).toList) := by
  rcases writes_or_same hl' with ⟨state, hwrites, hshown⟩ | ⟨hno, hput, hsame⟩
  · cases hwrites with
    | registered hcalling =>
      obtain ⟨htask, hc⟩ := call_of_find? hcalling
      exact absurd (htask ▸ hl) (hs.unlisted hc)
    | pollBegun hfuture => exact absurd (Or.inl (mem_of_lookup hfuture)) (hthread _)
    | pollPending hactive => exact absurd (carries_of_active (mem_active hactive)) (hthread _)
    | @entered n t state g hguard htask =>
      refine Or.inl ⟨w.nextGuard, g, ?_, htask⟩
      simp only [Tracking.step, enterState, hguard]
      exact List.mem_cons_self
    | putBack hguard htask =>
      have hput := putBack?_eq_some_iff.mpr ⟨_, rfl, hguard, htask⟩
      rw [hput, Option.toList_some]
      refine Or.inr (hshown.trans ?_)
      rw [lastReplaced_concat]
  · rw [hput, Option.toList_none, List.append_nil]
    rcases hw with ⟨i, g, hmem, htask⟩ | hshown
    · refine Or.inl ⟨i, g, mem_guards_becomes (becomes_step w a) hmem ?_, htask⟩
      rintro rfl
      exact hno _ (.putBack (lookup_of_mem hn.keys hmem) htask)
    · exact Or.inr (hsame.trans hshown)

/-- A task that was spawned as a thread has no future. -/
theorem Spawned.not_carries (hs : Spawned acts h (.thread name)) (honce : TakenOnce acts h) (f : Nat) :
    ¬(start.run acts).Carries f h := by
  intro hc
  cases hs.eq_of_once honce ((kinds_run acts).carried hc)

/-- After every run that does not use up the numbers, a guard of a listed thread is kept, or the thread shows what the guard
dropped last had replaced. -/
theorem annotated_run (hfew : Few acts) (hthread : Spawned acts h (.thread name)) (hl : (start.run acts).Lists h) :
    (start.run acts).Annotated h (start.dropped h acts) := by
  induction acts using List.reverseRecOn with
  | nil => cases hl
  | append_singleton acts a ih =>
    have hfew' := hfew.of_append
    rw [run_concat] at hl ⊢
    rw [dropped_concat]
    rcases (lists_becomes (becomes_step _ a)).mp hl with hnew | ⟨hold, -⟩
    · -- the thread is registered only now, so it is `running`, and no guard of it was ever given
      obtain ⟨spawn, hspawned, hshown⟩ := shownState?_of_registers hnew hl
      obtain rfl : spawn = .thread name := (hspawned.append [a]).unique hfew hthread
      rw [dropped_eq_nil (not_registered_before hfew hnew), putBack?_of_registers hnew]
      exact Or.inr hshown
    · have hthread' := hthread.of_registered (hfew.takenOnce h) (registered_of_lists hold)
      have hnot := hthread'.not_carries (hfew'.takenOnce h)
      exact (ih hfew' hthread' hold).step (sound_run acts hfew') (numbered_run acts) hold hl hnot

/-- Take a thread that is listed after a run that does not use up the numbers, and of which no guard is kept, in whatever order
and wherever its guards were dropped. A snapshot shows it in the state that the guard dropped last had replaced, and as `running`
if no guard was ever dropped. So it is `running` again exactly if the guard dropped last was given while it was `running`. Each
guard that was dropped had been given when the thread entered a state, and puts back what the thread showed then. -/
theorem thread_shows_what_last_guard_replaced (acts : List Act) (hfew : Few acts) {h : Handle} {name : Option String}
    (hthread : Spawned acts h (.thread name)) (hl : (start.run acts).Lists h)
    (hnone : ∀ i g, (i, g) ∈ (start.run acts).guards → g.task ≠ h) :
    (start.run acts).shownState? h = some (lastReplaced TaskState.running (start.dropped h acts)) ∧
    ((start.run acts).shownState? h = some TaskState.running ↔
      ∀ g, (start.dropped h acts).getLast? = some g → g.previous = TaskState.running) ∧
    ∀ g ∈ start.dropped h acts, ∃ w n t state, (w, .enterState n t state) ∈ start.moments acts ∧
      w.guardFor? n t = some g ∧ w.shownState? h = some g.previous := by
  have hshown : (start.run acts).shownState? h = some (lastReplaced TaskState.running (start.dropped h acts)) := by
    rcases annotated_run hfew hthread hl with ⟨i, g, hmem, htask⟩ | hshown
    · exact absurd htask (hnone i g hmem)
    · exact hshown
  refine ⟨hshown, ?_, fun g hmem => dropped_given hmem⟩
  rw [hshown, Option.some.injEq]
  exact lastReplaced_eq_base_iff

/-- A thread that enters two states, one within the other, and leaves them in the opposite order. -/
def nestedStates : List Act :=
  workerRun ++ [.enterState 1 1 "syscall", .enterState 1 1 "IO wait", .dropGuard 1, .dropGuard 0]

theorem spawned_worker (acts : List Act) : Spawned (workerRun ++ acts) ⟨1, ⟨1⟩⟩ (.thread (some "worker")) :=
  Spawned.append ⟨start, "app::work", "src/main.rs:7:5", List.mem_cons_self, rfl⟩ acts

theorem nested_states_end_running :
    Few nestedStates ∧ (start.run nestedStates).Lists ⟨1, ⟨1⟩⟩ ∧ (start.run nestedStates).guards = [] ∧
      (start.run nestedStates).shownState? ⟨1, ⟨1⟩⟩ = some TaskState.running := by
  have hfew : Few nestedStates := fun t => Nat.lt_of_le_of_lt List.countP_le_length (by decide)
  have hl : (start.run nestedStates).Lists ⟨1, ⟨1⟩⟩ := isSome_shownState?_iff.mp rfl
  obtain ⟨-, hrunning, -⟩ := thread_shows_what_last_guard_replaced nestedStates hfew (spawned_worker _) hl
    (fun i g hmem => by cases hmem)
  refine ⟨hfew, hl, rfl, hrunning.mpr fun g hg => ?_⟩
  cases hg
  rfl

/-- A thread that enters two states and leaves the outer one first. -/
def crossedStates : List Act :=
  workerRun ++ [.enterState 1 1 "syscall", .enterState 1 1 "IO wait", .dropGuard 0, .dropGuard 1]

/-- No guard is kept, and the thread shows an annotation whose guard was dropped before the other. -/
theorem crossed_states_leave_annotation :
    Few crossedStates ∧ Spawned crossedStates ⟨1, ⟨1⟩⟩ (.thread (some "worker")) ∧
      (start.run crossedStates).Lists ⟨1, ⟨1⟩⟩ ∧ (start.run crossedStates).guards = [] ∧
      (start.run crossedStates).shownState? ⟨1, ⟨1⟩⟩ = some "syscall" := by
  refine ⟨fun t => Nat.lt_of_le_of_lt List.countP_le_length (by decide), spawned_worker _, ?_, rfl, rfl⟩
  exact isSome_shownState?_iff.mp rfl

end Stragglers.Tracking
