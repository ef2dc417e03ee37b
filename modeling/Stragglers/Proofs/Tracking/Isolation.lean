import Stragglers.Proofs.Tracking.Lifetime

/-!
# What acts leave as it is

An act changes the registries of the trackers whose tasks it is about and no others. Of these it changes the entries that it
registers or drops; a spawn that fails puts in nothing that stays, and the guard of a task that has ended puts back nothing.
-/

namespace Stragglers.Tracking

/-- The tasks that an act is about. -/
def concerns (w : Tracking) : Act → List Handle
  | .call t _ _ _ => [w.nextHandle t]
  | .register h | .launch h _ => [h]
  | .beginThread n => (w.thread n).waiting.toList
  | .endThread n | .endPoll n _ => ((w.thread n).active.head?.map (·.task)).toList
  | .beginPoll _ f | .dropFuture f => (w.futures.lookup f).toList
  | .enterState n t _ => ((w.current? n t).map (⟨t, ·⟩)).toList
  | .dropGuard i => ((w.guards.lookup i).map (·.task)).toList
  | .shutdown => w.futures.map (·.2)

variable {w w' : Tracking} {a : Act} {h : Handle}

/-! ## Other trackers -/

theorem registry_release_other (h : Handle) {t : Nat} (ht : h.tracker ≠ t) : (w.release h).registry t = w.registry t := by
  rw [registry_release, if_neg ht.symm]

theorem registry_setState_other (h : Handle) (state : String) {t : Nat} (ht : h.tracker ≠ t) :
    (w.setState h state).registry t = w.registry t := by
  rw [registry_setState, if_neg ht.symm]

/-- The task whose state is replaced is the one that runs on the thread. -/
theorem mem_concerns_of_guardFor? {n t : Nat} {g : Guard} (hguard : w.guardFor? n t = some g) (state : String) :
    g.task ∈ w.concerns (.enterState n t state) := by
  rw [guardFor?] at hguard
  cases hcurrent : w.current? n t with
  | none =>
    rw [hcurrent] at hguard
    cases hguard
  | some id =>
    rw [hcurrent] at hguard
    obtain ⟨previous, -, rfl⟩ := Option.map_eq_some_iff.mp hguard
    rw [concerns, hcurrent]
    exact List.mem_singleton.mpr rfl

/-- An act leaves the registry of a tracker as it is if it is about none of its tasks. -/
theorem registry_of_concerns (hb : w.Becomes a w') {t : Nat} (ht : ∀ h ∈ w.concerns a, h.tracker ≠ t) :
    w'.registry t = w.registry t := by
  cases hb with
  | same | threadLaunched | futureLaunched | threadBegun => rfl
  | @called t' =>
    have hne : t' ≠ t := ht _ (List.mem_singleton.mpr rfl)
    exact (registry_takeNumber w t' t).trans (if_neg hne.symm)
  | @registered x c hcalling =>
    obtain ⟨rfl, -⟩ := call_of_find? hcalling
    have hne : c.task.tracker ≠ t := ht _ (List.mem_singleton.mpr rfl)
    exact (registry_enlist w c t).trans (if_neg hne.symm)
  | @launchFailed x c granted hlaunching =>
    obtain ⟨rfl, -⟩ := call_of_find? hlaunching
    exact registry_release_other _ (ht _ (List.mem_singleton.mpr rfl))
  | threadEnded hactive | pollEnded hactive =>
    refine registry_release_other _ (ht _ ?_)
    rw [concerns, hactive]
    exact List.mem_singleton.mpr rfl
  | pollPending hactive =>
    refine registry_setState_other _ _ (ht _ ?_)
    rw [concerns, hactive]
    exact List.mem_singleton.mpr rfl
  | futureDropped hfuture =>
    refine registry_release_other _ (ht _ ?_)
    rw [concerns, hfuture]
    exact List.mem_singleton.mpr rfl
  | pollBegun hfuture =>
    refine registry_setState_other _ _ (ht _ ?_)
    rw [concerns, hfuture]
    exact List.mem_singleton.mpr rfl
  | stateEntered hguard => exact registry_setState_other _ _ (ht _ (mem_concerns_of_guardFor? hguard _))
  | guardDropped hguard =>
    refine registry_setState_other _ _ (ht _ ?_)
    rw [concerns, hguard]
    exact List.mem_singleton.mpr rfl
  | runtimeEnded =>
    have hkeep : (w.registry t).entries.filter (fun e => (⟨t, e.1⟩ : Handle) ∉ w.futures.map (·.2)) =
        (w.registry t).entries :=
      List.filter_eq_self.mpr fun e _ => decide_eq_true fun hmem => ht _ hmem rfl
    exact (registry_foldl_release _ w t).trans (by rw [hkeep])

/-! ## Spawns -/

/-- Taking a number leaves all entries as they are. -/
theorem entries_of_numbers (hb : w.Becomes a w') {t : Nat} (hn : a.numbers? = some t) (t' : Nat) :
    (w'.registry t').entries = (w.registry t').entries := by
  have ht := turns_becomes hb t'
  generalize w'.registry t' = r at ht
  cases ht with
  | same | number => rfl
  | insert _ _ hact => rw [hact] at hn; cases hn
  | state _ _ hidle | drop _ hidle => rw [hidle] at hn; cases hn

/-- Registering a task leaves all entries but its own as they are. -/
theorem Sound.entries_of_registers (hs : w.Sound) (hb : w.Becomes a w') (hmem : h ∈ w.registers a) (t : Nat) :
    (w'.registry t).entries.filter (fun e => (⟨t, e.1⟩ : Handle) ≠ h) = (w.registry t).entries := by
  cases hb with
  | same hidle => exact absurd (hidle.registers ▸ hmem) List.not_mem_nil
  | @registered x c hcalling =>
    rw [registers_register hcalling, List.mem_singleton] at hmem
    subst hmem
    obtain ⟨⟨t', id⟩, spawn, frames⟩ := c
    have hregistry := registry_enlist w ⟨⟨t', id⟩, spawn, frames⟩ t
    show ((w.enlist _).registry t).entries.filter _ = _
    rw [hregistry]
    by_cases ht : t = t'
    · subst ht
      have hremove := Registry.remove_insert (hs.unlisted (call_of_find? hcalling).2) spawn.state frames
      simp only [if_pos, ne_eq, Handle.mk.injEq, true_and]
      exact congrArg Registry.entries hremove
    · rw [if_neg ht]
      exact List.filter_eq_self.mpr fun e _ => decide_eq_true fun heq => ht (congrArg Handle.tracker heq)
  | called | threadLaunched | futureLaunched | launchFailed | threadBegun | threadEnded | pollBegun | pollPending | pollEnded |
      futureDropped | stateEntered | guardDropped | runtimeEnded => cases hmem

theorem find?_concat {l : List Call} {c : Call} (hl : ∀ d ∈ l, d.task ≠ c.task) :
    (l ++ [c]).find? (·.task = c.task) = some c := by
  have hnone : l.find? (·.task = c.task) = none :=
    List.find?_eq_none.mpr fun d hd hdec => hl d hd (of_decide_eq_true hdec)
  rw [List.find?_append, hnone]
  simp

/-- A call that has taken a number enlists its task. -/
theorem step_register {c : Call} (hcalling : w.calling.find? (·.task = h) = some c) :
    (w.step (.register h)).1 =
      { w.enlist c with calling := w.calling.filter (·.task ≠ h), launching := w.launching ++ [c] } := by
  simp only [step, register, hcalling]

/-- A launch that fails takes the task out again. -/
theorem step_launch_fails {c : Call} {granted : Bool} (hlaunching : w.launching.find? (·.task = h) = some c)
    (hfails : w.launches c granted = false) :
    (w.step (.launch h granted)).1 = { w with launching := w.launching.filter (·.task ≠ h) }.release c.task := by
  simp only [step, launch, hlaunching, hfails, Bool.false_eq_true, if_false]

/-- A launch that succeeds hands the task on to its thread or to the runtime. -/
theorem step_launch_succeeds {c : Call} {granted : Bool} (hlaunching : w.launching.find? (·.task = h) = some c)
    (hlaunches : w.launches c granted = true) :
    (w.step (.launch h granted)).1 = { w with launching := w.launching.filter (·.task ≠ h) }.launched c := by
  simp only [step, launch, hlaunching, hlaunches, if_true]

/-- Putting in a task that is not listed and taking it out again changes no registry. -/
theorem registry_release_enlist {c : Call} (hl : ¬w.Lists c.task) (t : Nat) :
    ((w.enlist c).release c.task).registry t = w.registry t := by
  rw [registry_release, registry_enlist]
  by_cases ht : t = c.task.tracker
  · subst ht
    rw [if_pos rfl, if_pos rfl]
    exact Registry.remove_insert hl _ _
  · rw [if_neg ht, if_neg ht]

/-- A spawn that fails leaves all entries as they were. -/
theorem Sound.entries_of_failed_spawn (hs : w.Sound) {t : Nat} {spawn : Spawn} {entry site : String} {granted : Bool}
    (hfails : w.launches ⟨w.nextHandle t, spawn, spawnFrames spawn.name? entry site⟩ granted = false) (t' : Nat) :
    ((w.run [.call t spawn entry site, .register (w.nextHandle t), .launch (w.nextHandle t) granted]).registry t').entries =
      (w.registry t').entries := by
  generalize hc : (⟨w.nextHandle t, spawn, spawnFrames spawn.name? entry site⟩ : Call) = c at hfails
  have htask : w.nextHandle t = c.task := by rw [← hc]
  have hcalling : ∀ d ∈ w.calling, d.task ≠ c.task := fun d hd => htask ▸ hs.task_ne_nextHandle hd t
  have hlaunching : ∀ d ∈ w.launching, d.task ≠ c.task := by
    intro d hd heq
    have hlists : w.Lists d.task := (hs.custody.listed _).mp ⟨.callers, List.mem_map_of_mem hd⟩
    exact hs.not_lists_nextHandle t (htask ▸ heq ▸ hlists)
  have hnew : ¬(w.takeNumber t).Lists c.task := fun hl =>
    hs.not_lists_nextHandle t (htask ▸ lists_takeNumber.mp hl)
  let w₁ : Tracking := { w.takeNumber t with calling := w.calling ++ [c] }
  let w₂ : Tracking :=
    { w₁.enlist c with calling := w₁.calling.filter (·.task ≠ c.task), launching := w₁.launching ++ [c] }
  have h₁ : (w.step (.call t spawn entry site)).1 = w₁ := by
    simp only [step, call, hc, w₁]
  have h₂ : (w₁.step (.register c.task)).1 = w₂ := step_register (find?_concat hcalling)
  have h₃ : (w₂.step (.launch c.task granted)).1 =
      { w₂ with launching := w₂.launching.filter (·.task ≠ c.task) }.release c.task := step_launch_fails (find?_concat hlaunching) hfails
  rw [run, List.foldl_cons, List.foldl_cons, List.foldl_cons, List.foldl_nil, h₁, htask, h₂, h₃]
  exact (congrArg Registry.entries (registry_release_enlist hnew t')).trans
    (entries_of_numbers (becomes_step w (.call t spawn entry site)) rfl t')

/-! ## Guards and snapshots -/

theorem setRegistry_self (w : Tracking) (t : Nat) : w.setRegistry t (w.registry t) = w := by
  have hregistry : (fun u => if u = t then w.registry t else w.registry u) = w.registry := by
    funext u
    split
    · rename_i hu
      rw [hu]
    · rfl
  rw [setRegistry, hregistry]

/-- Replacing the state of a task that is not listed changes nothing. -/
theorem setState_of_not_lists (hl : ¬w.Lists h) (state : String) : w.setState h state = w := by
  rw [setState, Registry.setState_of_not_mem hl, setRegistry_self]

/-- The guard of a task that has ended is dropped without effect on the trackers. -/
theorem step_dropGuard_of_not_lists {i : Nat} {g : Guard} (hguard : w.guards.lookup i = some g) (hl : ¬w.Lists g.task) :
    (w.step (.dropGuard i)).1 = { w with guards := w.guards.filter fun g => g.1 ≠ i } := by
  simp only [step, dropGuard, hguard]
  have hl' : ¬{ w with guards := w.guards.filter fun g => g.1 ≠ i }.Lists g.task := hl
  exact setState_of_not_lists hl' _

/-! ## After every run -/

/-- After every run that does not use up the numbers, and for every act that may come next: a registry lists the tasks that were
registered and whose registrations were not dropped, which are those that something holds; the numbers taken from a tracker
strictly increase, and each task is registered once, under a number that was taken; a spawn that fails leaves all entries as they
were, and so do its steps, but for its own entry, when others come between them; what drops registrations takes out their entries
and no others; the guard of a task that has ended is dropped without effect; a snapshot has the listed tasks in the order of their
numbers; and an act leaves the registries of other trackers as they are. -/
theorem registries_hold_live_registrations (acts : List Act) (a : Act) (hfew : Few (acts ++ [a])) :
    let w := start.run acts
    let w' := start.run (acts ++ [a])
    (∀ h : Handle, h.task ∈ (w.registry h.tracker).ids ↔
      h ∈ start.along registers acts ∧ h ∉ start.along drops acts) ∧
    (∀ h, w.Lists h ↔ w.Holds h) ∧
    (start.along numbers (acts ++ [a])).Pairwise (fun g h => g.tracker = h.tracker → g.task.val < h.task.val) ∧
    (start.along registers (acts ++ [a])).Nodup ∧
    (∀ h ∈ start.along registers (acts ++ [a]), h ∈ start.along numbers (acts ++ [a])) ∧
    (∀ t spawn entry site granted, a = .call t spawn entry site →
      w.launches ⟨w.nextHandle t, spawn, spawnFrames spawn.name? entry site⟩ granted = false →
      ∀ t', ((w.run [a, .register (w.nextHandle t), .launch (w.nextHandle t) granted]).registry t').entries =
        (w.registry t').entries) ∧
    (∀ t, a.numbers? = some t → ∀ t', (w'.registry t').entries = (w.registry t').entries) ∧
    (∀ h ∈ w.registers a, ∀ t,
      (w'.registry t).entries.filter (fun e => (⟨t, e.1⟩ : Handle) ≠ h) = (w.registry t).entries) ∧
    (w.drops a ≠ [] → (∀ h ∈ w.drops a, w.Lists h ∧ ¬w'.Lists h) ∧
      ∀ t, (w'.registry t).entries = (w.registry t).entries.filter fun e => (⟨t, e.1⟩ : Handle) ∉ w.drops a) ∧
    (∀ i g, a = .dropGuard i → w.guards.lookup i = some g → g.task ∈ start.along drops acts →
      w' = { w with guards := w.guards.filter fun g => g.1 ≠ i }) ∧
    (∀ t, ∃ tasks, w.shot t = .ofTasks tasks ∧ tasks.map (·.id) = (w.registry t).ids ∧
      tasks.Pairwise (fun x y => x.id.val < y.id.val) ∧ tasks.length = (w.registry t).size) ∧
    ∀ t, (∀ h ∈ w.concerns a, h.tracker ≠ t) → w'.registry t = w.registry t := by
  intro w w'
  have hs : w.Sound := sound_run acts hfew.of_append
  have haccount := accounted_run acts hfew.of_append
  have haccount' := accounted_run (acts ++ [a]) hfew
  have hb : w.Becomes a w' := by
    have hb := becomes_step w a
    rwa [← run_concat] at hb
  refine ⟨haccount.lists, fun h => (hs.custody.listed h).symm, haccount'.increasing, haccount'.registeredOnce,
    haccount'.known, ?_, fun t hn => entries_of_numbers hb hn, fun h hmem => hs.entries_of_registers hb hmem, ?_, ?_, ?_, ?_⟩
  · rintro t spawn entry site granted rfl hfails
    exact hs.entries_of_failed_spawn hfails
  · intro hdrops
    refine ⟨fun h hmem => ⟨hs.lists_of_drops hmem, fun hl => ?_⟩, fun t => ?_⟩
    · rcases (lists_becomes hb).mp hl with hregisters | ⟨-, hkept⟩
      · obtain ⟨c, hc, rfl⟩ := exists_call_of_registers hregisters
        exact hs.unlisted hc (hs.lists_of_drops hmem)
      · exact hkept hmem
    · rw [registry_of_drops hb hdrops t]
  · rintro i g rfl hguard hdropped
    have hl : ¬w.Lists g.task := fun hl => ((haccount.lists g.task).mp hl).2 hdropped
    show start.run (acts ++ [.dropGuard i]) = _
    rw [run_concat]
    exact step_dropGuard_of_not_lists hguard hl
  · intro t
    exact ⟨_, rfl, Registry.map_id_records _, Registry.pairwise_records (hs.ordered t), Registry.length_records _⟩
  · intro t ht
    exact registry_of_concerns hb ht

/-- A thread is spawned with the first tracker, and begins. -/
def workerRun : List Act :=
  [.call 1 (.thread (some "worker")) "app::work" "src/main.rs:7:5", .register ⟨1, ⟨1⟩⟩, .launch ⟨1, ⟨1⟩⟩ true,
    .beginThread 1]

theorem worker_listed_until_end :
    Few (workerRun ++ [.endThread 1]) ∧ (start.run workerRun).Lists ⟨1, ⟨1⟩⟩ ∧
      ¬(start.run (workerRun ++ [.endThread 1])).Lists ⟨1, ⟨1⟩⟩ := by
  have hfew : Few (workerRun ++ [.endThread 1]) := fun t => Nat.lt_of_le_of_lt List.countP_le_length (by decide)
  obtain ⟨hlists, -, -, -, -, -, -, -, hdrops, -⟩ := registries_hold_live_registrations workerRun (.endThread 1) hfew
  have hended : (start.run workerRun).drops (.endThread 1) = [⟨1, ⟨1⟩⟩] := rfl
  have hfirst := (hdrops (by rw [hended]; exact List.cons_ne_nil _ _)).1 ⟨1, ⟨1⟩⟩ (hended ▸ List.mem_singleton.mpr rfl)
  exact ⟨hfew, (hlists _).mpr (by decide), hfirst.2⟩

end Stragglers.Tracking
