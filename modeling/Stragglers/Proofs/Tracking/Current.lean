import Stragglers.Proofs.Tracking.Interference
import Stragglers.Proofs.Tracking.Isolation
import Stragglers.Proofs.Tracking.SpawnFrames
import Stragglers.Proofs.Tracking.States

/-!
# The task that asks

A thread has one slot for the tasks of all trackers. A tracker that asks which of its tasks runs on the thread finds its innermost
one there as long as no body of another tracker has begun within it. While one runs, the tracker finds none: the task can enter no
state, and a check on the thread reports it as if another thread had asked (`current_iff_nothing_within`).
-/

namespace Stragglers

/-- The act ends the innermost body on the thread. -/
def Act.EndsOn (n : Nat) : Act → Prop
  | .endThread m | .endPoll m _ => m = n
  | _ => False

namespace Tracking

variable {w w' : Tracking} {a : Act} {n : Nat} {h : Handle} {within : List Activation} {gaps : Nat → List Act} {p : Policy}

/-- Of the bodies on a thread that are those of one tracker's tasks the innermost is that of this task, and these bodies, all of
other trackers, have begun within it. -/
structure Innermost (w : Tracking) (n : Nat) (h : Handle) (within : List Activation) : Prop where
  encloses : ∃ body outer around, (w.thread n).active = within ++ ⟨body, h, outer⟩ :: around
  others : ∀ x ∈ within, x.task.tracker ≠ h.tracker

theorem Innermost.exists_mem_active (hin : w.Innermost n h within) : ∃ x ∈ (w.thread n).active, x.task = h := by
  obtain ⟨body, outer, around, hactive⟩ := hin.encloses
  refine ⟨⟨body, h, outer⟩, ?_, rfl⟩
  rw [hactive]
  exact List.mem_append_right _ List.mem_cons_self

/-! ## Bodies that stay -/

theorem mem_active_setThread {m : Nat} {s : ThreadState} {x : Activation} (hx : x ∈ (w.thread n).active)
    (hs : m = n → x ∈ s.active) : x ∈ ((w.setThread m s).thread n).active := by
  by_cases hn : n = m
  · subst hn
    rw [setThread_self]
    exact hs rfl
  · rw [setThread_other s hn]
    exact hx

/-- A body stays on its thread until one ends there. -/
theorem mem_active_becomes (hb : w.Becomes a w') (hends : ¬a.EndsOn n) {x : Activation} (hx : x ∈ (w.thread n).active) :
    x ∈ (w'.thread n).active := by
  cases hb with
  | same | called | registered | futureLaunched | launchFailed | futureDropped | stateEntered | guardDropped |
      runtimeEnded => exact hx
  | threadLaunched =>
    refine mem_active_setThread hx fun hn => ?_
    subst hn
    exact hx
  | threadBegun | pollBegun =>
    refine mem_active_setThread hx fun hn => ?_
    subst hn
    exact List.mem_cons_of_mem _ hx
  | threadEnded | pollPending | pollEnded => exact mem_active_setThread hx fun hn => absurd hn hends

theorem mem_active_run {acts : List Act} (hends : ∀ a ∈ acts, ¬a.EndsOn n) {x : Activation} (hx : x ∈ (w.thread n).active) :
    x ∈ ((w.run acts).thread n).active := by
  induction acts using List.reverseRecOn with
  | nil => exact hx
  | append_singleton acts a ih =>
    rw [run_concat]
    have hlast : ¬a.EndsOn n := hends a (List.mem_append_right _ (List.mem_singleton.mpr rfl))
    exact mem_active_becomes (becomes_step _ a) hlast (ih fun b hb => hends b (List.mem_append_left _ hb))

/-- The task of a body on a thread is listed. -/
theorem Sound.lists_of_mem_active (hs : w.Sound) {x : Activation} (hx : x ∈ (w.thread n).active) : w.Lists x.task :=
  (hs.custody.listed _).mp ⟨.thread n, mem_handles_of_active hx⟩

/-- The task of a body is listed at each snapshot of a check during which no body of the thread ends. -/
theorem lists_amid {acts : List Act} {index : Nat} (hfew : Few (acts ++ (List.range (index + 1)).flatMap gaps))
    (hends : ∀ i ≤ index, ∀ a ∈ gaps i, ¬a.EndsOn n) {x : Activation} (hx : x ∈ ((start.run acts).thread n).active) :
    ((start.run acts).amid gaps index).Lists x.task := by
  have hs := sound_run _ hfew
  rw [← amid_run] at hs
  refine hs.lists_of_mem_active (mem_active_run (fun a ha => ?_) hx)
  obtain ⟨i, hi, ha⟩ := List.mem_flatMap.mp ha
  exact hends i (Nat.le_of_lt_succ (List.mem_range.mp hi)) a ha

/-! ## Who asks -/

/-- A tracker finds its innermost task on a thread exactly if nothing of another tracker runs within it. -/
theorem Innermost.current?_eq (hin : w.Innermost n h within) (hw : Nested (w.thread n).slot (w.thread n).active) :
    w.current? n h.tracker = if within = [] then some h.task else none := by
  -- the slot is that of the innermost body of all, whatever tracker it is of
  obtain ⟨body, outer, around, hactive⟩ := hin.encloses
  rw [hactive] at hw
  unfold current?
  cases within with
  | nil =>
    obtain ⟨hslot, -⟩ := hw
    simp [hslot]
  | cons x rest =>
    obtain ⟨hslot, -⟩ := hw
    simp [hslot, hin.others x List.mem_cons_self]

/-- A task that is found and listed can enter a state, and is shown in it. -/
theorem exists_guardFor? (hcurrent : w.current? n h.tracker = some h.task) (hl : w.Lists h) (state : String) :
    ∃ g, w.guardFor? n h.tracker = some g ∧ g.task = h ∧
      (w.step (.enterState n h.tracker state)).1.shownState? h = some state := by
  obtain ⟨previous, hprevious⟩ := Option.isSome_iff_exists.mp (isSome_shownState?_iff.mpr hl)
  rw [shownState?_eq] at hprevious
  have hguard : w.guardFor? n h.tracker = some ⟨h, previous⟩ := by
    simp only [guardFor?, hcurrent, hprevious, Option.map_some]
  have hl' : (w.step (.enterState n h.tracker state)).1.Lists h :=
    (lists_becomes (becomes_step w _)).mpr (Or.inr ⟨hl, List.not_mem_nil⟩)
  exact ⟨_, hguard, rfl, (Writes.entered hguard rfl).shownState?_step hl'⟩

/-- Where a tracker finds no task, no state is entered. -/
theorem step_enterState_of_current?_none {tracker : Nat} (hcurrent : w.current? n tracker = none) (state : String) :
    w.step (.enterState n tracker state) = (w, []) := by
  simp only [step, enterState, guardFor?, hcurrent]

/-- The task that checks is in no report. -/
theorem not_mem_report_of_current? {tracker : Nat} {id : TaskId} (hcurrent : w.current? n tracker = some id) {report : Report}
    (hleaked : (p.check (w.sourceAmid gaps n tracker)).value = .error (.leaked report)) : id ∉ report.tasks.map (·.id) := by
  obtain ⟨last, hlast⟩ := Backoff.exists_isLast (p.Settles (w.sourceAmid gaps n tracker)) p.maxRetries.toNat
  rw [Policy.value_check hlast] at hleaked
  rw [tasks_of_leaked hleaked, hcurrent]
  intro hmem
  obtain ⟨t, ht, rfl⟩ := List.mem_map.mp hmem
  exact (Policy.mem_leftOver.mp ht).2.1 rfl

/-- A task that is listed at each snapshot, and that no rule matches there, is reported if the check is not known to be its own. -/
theorem exists_report_of_current?_ne {tracker : Nat} {id : TaskId} (hcurrent : w.current? n tracker ≠ some id)
    (hlisted : ∀ i ≤ p.maxRetries.toNat, id ∈ ((w.amid gaps i).registry tracker).ids)
    (hrules : ∀ i ≤ p.maxRetries.toNat, ∀ r ∈ ((w.amid gaps i).registry tracker).records, r.id = id →
      ∀ rule ∈ p.rules, rule.holds r = false) :
    ∃ report, (p.check (w.sourceAmid gaps n tracker)).value = .error (.leaked report) ∧ id ∈ report.tasks.map (·.id) := by
  obtain ⟨last, hlast⟩ := Backoff.exists_isLast (p.Settles (w.sourceAmid gaps n tracker)) p.maxRetries.toNat
  obtain ⟨r, hr, rfl⟩ := exists_leftOver (hlisted last hlast.le_budget) hcurrent (hrules last hlast.le_budget)
  obtain ⟨report, hleaked, hmem⟩ := leaked_of_mem hr
  exact ⟨report, (Policy.value_check hlast).trans hleaked, List.mem_map_of_mem hmem⟩

/-- Take the innermost task of a tracker on a thread, after a run that does not use up the numbers. The tracker finds it there
exactly if nothing of another tracker runs within it. If so, no check on the thread reports it, and it can enter any state, with a
guard for it. If not, it can enter no state, and a check on the thread always reports it, as long as no rule matches it and no body
of the thread ends while the check goes on. -/
theorem current_iff_nothing_within (acts : List Act) (hfew : Few acts) {n : Nat} {h : Handle} {within : List Activation}
    (hin : (start.run acts).Innermost n h within) :
    let w := start.run acts
    w.current? n h.tracker = (if within = [] then some h.task else none) ∧
    (within = [] →
      (∀ p gaps report, (Policy.check p (w.sourceAmid gaps n h.tracker)).value = .error (.leaked report) →
        h.task ∉ report.tasks.map (·.id)) ∧
      ∀ state, ∃ g, w.guardFor? n h.tracker = some g ∧ g.task = h ∧
        (w.step (.enterState n h.tracker state)).1.shownState? h = some state) ∧
    (within ≠ [] →
      (∀ state, w.step (.enterState n h.tracker state) = (w, [])) ∧
      ∀ p gaps, (∀ i ≤ p.maxRetries.toNat, Few (acts ++ (List.range (i + 1)).flatMap gaps) ∧
          (∀ a ∈ gaps i, ¬a.EndsOn n) ∧
          ∀ r ∈ ((w.amid gaps i).registry h.tracker).records, r.id = h.task → ∀ rule ∈ p.rules, rule.holds r = false) →
        ∃ report, (Policy.check p (w.sourceAmid gaps n h.tracker)).value = .error (.leaked report) ∧
          h.task ∈ report.tasks.map (·.id)) := by
  intro w
  have hcurrent := hin.current?_eq (nested_run acts n)
  obtain ⟨x, hx, htask⟩ := hin.exists_mem_active
  refine ⟨hcurrent, fun hnone => ?_, fun hsome => ?_⟩
  · rw [if_pos hnone] at hcurrent
    have hl : w.Lists h := htask ▸ (sound_run acts hfew).lists_of_mem_active hx
    exact ⟨fun p gaps report => not_mem_report_of_current? hcurrent, exists_guardFor? hcurrent hl⟩
  · rw [if_neg hsome] at hcurrent
    have hne : w.current? n h.tracker ≠ some h.task := by
      rw [hcurrent]
      exact (Option.some_ne_none _).symm
    refine ⟨step_enterState_of_current?_none hcurrent, fun p gaps hgaps => ?_⟩
    refine exists_report_of_current?_ne hne (fun i hi => ?_) fun i hi => (hgaps i hi).2.2
    subst htask
    exact lists_amid (hgaps i hi).1 (fun j hj => (hgaps j (Nat.le_trans hj hi)).2.1) hx

/-- A thread of the first tracker polls a job of the second. -/
def jobInWorker : List Act :=
  workerRun ++ [.call 2 .future "app::job" "src/main.rs:9:5", .register ⟨2, ⟨1⟩⟩, .launch ⟨2, ⟨1⟩⟩ true, .beginPoll 1 0]

theorem job_current_in_worker :
    Few jobInWorker ∧ (start.run jobInWorker).Innermost 1 ⟨2, ⟨1⟩⟩ [] ∧
      (start.run jobInWorker).current? 1 2 = some ⟨1⟩ := by
  have hfew : Few jobInWorker := fun t => Nat.lt_of_le_of_lt List.countP_le_length (by decide)
  have hin : (start.run jobInWorker).Innermost 1 ⟨2, ⟨1⟩⟩ [] := ⟨⟨.poll 0, _, _, rfl⟩, by decide⟩
  exact ⟨hfew, hin, (current_iff_nothing_within jobInWorker hfew hin).1⟩

/-- The one record of the first tracker while the job is polled. -/
theorem records_jobInWorker :
    ((start.run jobInWorker).registry 1).records =
      [.of ⟨1⟩ TaskState.running
        [.named "worker", .located "app::work" "src/main.rs:7:5", .named FunctionName.taskExit]] := by
  have hframes : spawnFrames (some "worker") "app::work" "src/main.rs:7:5" =
      [.named "worker", .located "app::work" "src/main.rs:7:5", .named FunctionName.taskExit] :=
    spawnFrames_of_not_closure (by decide)
  rw [← hframes]
  rfl

/-- The thread is the innermost task of its tracker while it polls the job of the other one. The tracker does not find it there, it
enters no state, and a check by the thread reports it. -/
theorem worker_reported_within_job :
    (start.run jobInWorker).Innermost 1 ⟨1, ⟨1⟩⟩ [⟨.poll 0, ⟨2, ⟨1⟩⟩, some ⟨1, ⟨1⟩⟩⟩] ∧
      (start.run jobInWorker).current? 1 1 = none ∧
      ((start.run jobInWorker).step (.enterState 1 1 "IO wait")).1.shownState? ⟨1, ⟨1⟩⟩ = some TaskState.running ∧
      ∃ report, (find ((start.run jobInWorker).source 1 1) [.maxRetries 0]).value = .error (.leaked report) ∧
        ⟨1⟩ ∈ report.tasks.map (·.id) := by
  refine ⟨⟨⟨.thread, none, [], rfl⟩, by decide⟩, rfl, rfl, ?_⟩
  have hfind : find ((start.run jobInWorker).source 1 1) [.maxRetries 0] =
      (Policy.withDefaults [.maxRetries 0]).check ((start.run jobInWorker).sourceAmid (fun _ => []) 1 1) := by
    rw [sourceAmid_rest]
    rfl
  rw [hfind]
  refine exists_report_of_current?_ne (by decide) (fun i _ => ?_) fun i _ r hr _ => ?_
  · rw [amid_rest]
    decide
  · rw [amid_rest, records_jobInWorker, List.mem_singleton] at hr
    subst hr
    decide

end Tracking

end Stragglers
