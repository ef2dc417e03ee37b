import Stragglers.Proofs.Tracking.Annotation
import Stragglers.Proofs.Tracking.Current

/-!
# States entered within each other

No list of a thread's annotations is kept anywhere: each guard knows the state that it replaced, and that is all. As long as the
guards of a thread are dropped in the opposite order of that in which they were given, the guards that are kept make up such a
list (`Stacked`): each puts back the state that the next one gave, and the outermost puts back `running`. One act keeps this
(`stacked_step`), and so the thread shows at every moment what its innermost guard was given for
(`thread_shows_innermost_annotation`).
-/

namespace Stragglers.Tracking

variable {w w' : Tracking} {acts : List Act} {a : Act} {h : Handle} {i : Nat} {g : Guard} {state : String}

/-! ## What guards are given for -/

/-- In this run an entry into the state gave the guard of this number. -/
def Gave (acts : List Act) (i : Nat) (state : String) : Prop :=
  ∃ w n t g, (w, .enterState n t state) ∈ start.moments acts ∧ w.guardFor? n t = some g ∧ w.nextGuard = i

/-- A guard that was given stays given. -/
theorem Gave.append (hg : Gave acts i state) (acts' : List Act) : Gave (acts ++ acts') i state := by
  obtain ⟨w, n, t, g, hmem, hgiven⟩ := hg
  refine ⟨w, n, t, g, ?_, hgiven⟩
  rw [moments_append]
  exact List.mem_append_left _ hmem

/-- A guard is given by the last act or before. -/
theorem gave_concat_iff : Gave (acts ++ [a]) i state ↔ Gave acts i state ∨
    ∃ n t g, a = .enterState n t state ∧ (start.run acts).guardFor? n t = some g ∧ (start.run acts).nextGuard = i := by
  constructor
  · rintro ⟨w, n, t, g, hmem, hgiven⟩
    rw [moments_concat] at hmem
    rcases List.mem_append.mp hmem with hmem | hmem
    · exact Or.inl ⟨w, n, t, g, hmem, hgiven⟩
    · cases List.mem_singleton.mp hmem
      exact Or.inr ⟨n, t, g, rfl, hgiven⟩
  · rintro (hg | ⟨n, t, g, rfl, hgiven⟩)
    · exact hg.append _
    · refine ⟨start.run acts, n, t, g, ?_, hgiven⟩
      rw [moments_concat]
      exact List.mem_append_right _ (List.mem_singleton.mpr rfl)

/-- Entering a state sets it and keeps the next guard. -/
theorem step_enterState (hguard : w.guardFor? n t = some g) (state : String) :
    (w.step (.enterState n t state)).1 =
      { w.setState g.task state with guards := (w.nextGuard, g) :: w.guards, nextGuard := w.nextGuard + 1 } := by
  simp only [step, enterState, hguard]

/-- Dropping a guard puts back what it replaced. -/
theorem step_dropGuard (hguard : w.guards.lookup i = some g) :
    (w.step (.dropGuard i)).1 = { w with guards := w.guards.filter fun g => g.1 ≠ i }.setState g.task g.previous := by
  simp only [step, dropGuard, hguard]

/-- No act takes a number of guards back. -/
theorem nextGuard_le_becomes (hb : w.Becomes a w') : w.nextGuard ≤ w'.nextGuard := by
  rcases guards_becomes hb with ⟨-, hnext⟩ | ⟨_, _, _, _, -, -, -, hnext⟩ | ⟨_, -, -, hnext⟩ <;> omega

/-- The number of a guard is below the next one. -/
theorem Gave.lt_nextGuard (hg : Gave acts i state) : i < (start.run acts).nextGuard := by
  induction acts using List.reverseRecOn with
  | nil =>
    obtain ⟨w, n, t, g, hmem, -⟩ := hg
    cases hmem
  | append_singleton acts a ih =>
    rw [run_concat]
    rcases gave_concat_iff.mp hg with hg | ⟨n, t, g, rfl, hguard, hnext⟩
    · exact Nat.lt_of_lt_of_le (ih hg) (nextGuard_le_becomes (becomes_step _ a))
    · rw [step_enterState hguard, ← hnext]
      exact Nat.lt_succ_self _

/-- A guard is given for one state. -/
theorem Gave.unique {state' : String} (hg : Gave acts i state) (hg' : Gave acts i state') : state = state' := by
  induction acts using List.reverseRecOn with
  | nil =>
    obtain ⟨w, n, t, g, hmem, -⟩ := hg
    cases hmem
  | append_singleton acts a ih =>
    rcases gave_concat_iff.mp hg with hg | ⟨n, t, g, rfl, -, hnext⟩ <;>
      rcases gave_concat_iff.mp hg' with hg' | ⟨n', t', g', ha, -, hnext'⟩
    · exact ih hg hg'
    · exact absurd hg.lt_nextGuard (by omega)
    · exact absurd hg'.lt_nextGuard (by omega)
    · cases ha
      rfl

/-! ## The guards of one task -/

/-- The guards of the task that are kept, the last one that was given first. -/
def keptBy (w : Tracking) (h : Handle) : List (Nat × Guard) :=
  w.guards.filter (·.2.task = h)

/-- The guards of a task are those kept that are about it. -/
theorem mem_keptBy : (i, g) ∈ w.keptBy h ↔ (i, g) ∈ w.guards ∧ g.task = h := by
  simp [keptBy]

/-- The guards that are kept stand in the opposite order of that in which they were given. -/
theorem descending_run (acts : List Act) : (start.run acts).guards.Pairwise fun x y => y.1 < x.1 := by
  induction acts using List.reverseRecOn with
  | nil => exact List.Pairwise.nil
  | append_singleton acts a ih =>
    rw [run_concat]
    rcases guards_becomes (becomes_step (start.run acts) a) with ⟨hguards, -⟩ | ⟨_, _, _, _, -, -, hguards, -⟩ |
      ⟨_, -, hguards, -⟩ <;> rw [hguards]
    · exact ih
    · rw [List.pairwise_cons]
      exact ⟨fun x hx => (numbered_run acts).given hx, ih⟩
    · exact ih.filter _

/-- The guards of a task are kept with the latest first. -/
theorem descending_keptBy (acts : List Act) (h : Handle) : ((start.run acts).keptBy h).Pairwise fun x y => y.1 < x.1 :=
  (descending_run acts).filter _

/-- A state that is entered puts a guard before those of its task. -/
theorem keptBy_enterState (hguard : w.guardFor? n t = some g) (htask : g.task = h) (state : String) :
    (w.step (.enterState n t state)).1.keptBy h = (w.nextGuard, g) :: w.keptBy h := by
  rw [step_enterState hguard]
  exact List.filter_cons_of_pos (by simpa using htask)

/-- A guard that is dropped is no longer among those of any task. -/
theorem keptBy_dropGuard (hguard : w.guards.lookup i = some g) :
    (w.step (.dropGuard i)).1.keptBy h = (w.keptBy h).filter fun x => x.1 ≠ i := by
  rw [step_dropGuard hguard]
  show (w.guards.filter fun x => x.1 ≠ i).filter _ = _
  rw [keptBy, List.filter_filter, List.filter_filter]
  simp only [Bool.and_comm]

/-- What does not write the state of a task gives no guard of it and drops none. -/
theorem keptBy_of_not_writes (hn : w.Numbered) (hno : ∀ state, ¬w.Writes h a state) :
    (w.step a).1.keptBy h = w.keptBy h := by
  rcases guards_becomes (becomes_step w a) with ⟨hguards, -⟩ | ⟨n, t, state, g, rfl, hguard, hguards, -⟩ |
    ⟨i, rfl, hguards, -⟩ <;> rw [keptBy, hguards]
  · rfl
  · refine List.filter_cons_of_neg fun htask => ?_
    exact hno _ (.entered hguard (of_decide_eq_true htask))
  · rw [List.filter_filter, keptBy]
    refine List.filter_congr fun x hx => ?_
    obtain ⟨j, g⟩ := x
    by_cases htask : g.task = h
    · have hj : j ≠ i := by
        rintro rfl
        exact hno _ (.putBack (lookup_of_mem hn.keys hx) htask)
      simp [htask, hj]
    · simp [htask]

/-! ## Guards dropped in the opposite order -/

/-- Whenever a guard of the task is dropped, it is the last one given of those that are kept. -/
def Scoped (acts : List Act) (h : Handle) : Prop :=
  ∀ w i g, (w, .dropGuard i) ∈ start.moments acts → w.guards.lookup i = some g → g.task = h →
    ∀ j g', (j, g') ∈ w.guards → g'.task = h → j ≤ i

/-- The beginning of a scoped run is scoped. -/
theorem Scoped.of_append {acts' : List Act} (hs : Scoped (acts ++ acts') h) : Scoped acts h := by
  intro w i g hmem
  refine hs w i g ?_
  rw [moments_append]
  exact List.mem_append_left _ hmem

/-- In a scoped run the guard of a task that is dropped is the latest of its guards. -/
theorem Scoped.last (hs : Scoped (acts ++ [.dropGuard i]) h) (hguard : (start.run acts).guards.lookup i = some g)
    (htask : g.task = h) {j : Nat} {g' : Guard} (hmem : (j, g') ∈ (start.run acts).keptBy h) : j ≤ i := by
  obtain ⟨hkept, htask'⟩ := mem_keptBy.mp hmem
  refine hs (start.run acts) i g ?_ hguard htask j g' hkept htask'
  rw [moments_concat]
  exact List.mem_append_right _ (List.mem_singleton.mpr rfl)

/-- The innermost guard was given for the state that is shown, and each guard puts back the state that the next one was given
for; the outermost puts back `running`. -/
def Stacked (acts : List Act) : List (Nat × Guard) → String → Prop
  | [], shown => shown = TaskState.running
  | (i, g) :: rest, shown => Gave acts i shown ∧ Stacked acts rest g.previous

/-- Guards that stand on each other do so behind more acts. -/
theorem Stacked.append {kept : List (Nat × Guard)} {shown : String} (hs : Stacked acts kept shown) (acts' : List Act) :
    Stacked (acts ++ acts') kept shown := by
  induction kept generalizing shown with
  | nil => exact hs
  | cons x rest ih =>
    obtain ⟨hgave, hrest⟩ := hs
    exact ⟨hgave.append acts', ih hrest⟩

/-- The last one given is the innermost, and without it the others are left. -/
theorem exists_rest_of_last {kept : List (Nat × Guard)} (hdescending : kept.Pairwise fun x y => y.1 < x.1)
    (hmem : (i, g) ∈ kept) (hlast : ∀ j g', (j, g') ∈ kept → j ≤ i) :
    ∃ rest, kept = (i, g) :: rest ∧ kept.filter (fun x => x.1 ≠ i) = rest := by
  cases kept with
  | nil => cases hmem
  | cons x rest =>
    obtain ⟨j, g'⟩ := x
    rw [List.pairwise_cons] at hdescending
    have hji := hlast j g' List.mem_cons_self
    have hrest : rest.filter (fun x => x.1 ≠ i) = rest := by
      refine List.filter_eq_self.mpr fun x hx => ?_
      have hlt := hdescending.1 x hx
      simp only [ne_eq, decide_eq_true_eq]
      omega
    rcases List.mem_cons.mp hmem with heq | hmem
    · cases heq
      refine ⟨rest, rfl, ?_⟩
      rw [List.filter_cons_of_neg (by simp), hrest]
    · exact absurd (hdescending.1 _ hmem) (by omega)

/-- One act keeps the guards of a listed thread stacked: an entry puts a guard on top, and only the one on top is dropped. -/
theorem stacked_step {shown : String} (honce : TakenOnce (acts ++ [a]) h) (hscoped : Scoped (acts ++ [a]) h)
    (hthread : ∀ f, ¬(start.run acts).Carries f h) (hl : (start.run acts).Lists h)
    (hl' : (start.run (acts ++ [a])).Lists h) (hshown : (start.run acts).shownState? h = some shown)
    (hstacked : Stacked acts ((start.run acts).keptBy h) shown) :
    ∃ shown', (start.run (acts ++ [a])).shownState? h = some shown' ∧
      Stacked (acts ++ [a]) ((start.run (acts ++ [a])).keptBy h) shown' := by
  rw [run_concat] at hl' ⊢
  rcases writes_or_same hl' with ⟨state, hwrites, hnow⟩ | ⟨hno, -, hsame⟩
  · cases hwrites with
    | @registered c hcalling =>
      have hagain : h ∈ (start.run acts).registers (.register h) := by
        rw [registers_register hcalling, (call_of_find? hcalling).1]
        exact List.mem_singleton.mpr rfl
      exact absurd (registered_of_lists hl) (honce.not_registered_twice hagain)
    | pollBegun hfuture => exact absurd (Or.inl (mem_of_lookup hfuture)) (hthread _)
    | pollPending hactive => exact absurd (carries_of_active (mem_active hactive)) (hthread _)
    | @entered n t state g hguard htask =>
      refine ⟨state, hnow, ?_⟩
      rw [keptBy_enterState hguard htask]
      refine ⟨gave_concat_iff.mpr (Or.inr ⟨n, t, g, rfl, hguard, rfl⟩), ?_⟩
      -- the new guard keeps what was shown, and that is what the guards below it lead to
      have hprevious : shown = g.previous := by
        rw [← htask, (lists_of_guardFor? hguard).2.1] at hshown
        exact (Option.some.inj hshown).symm
      rw [← hprevious]
      exact hstacked.append [_]
    | @putBack i g hguard htask =>
      refine ⟨g.previous, hnow, ?_⟩
      rw [keptBy_dropGuard hguard]
      obtain ⟨rest, hkept, hrest⟩ := exists_rest_of_last (descending_keptBy acts h)
        (mem_keptBy.mpr ⟨mem_of_lookup hguard, htask⟩) fun j g' hmem => hscoped.last hguard htask hmem
      rw [hrest]
      rw [hkept] at hstacked
      exact hstacked.2.append [_]
  · refine ⟨shown, hsame.trans hshown, ?_⟩
    rw [keptBy_of_not_writes (numbered_run acts) hno]
    exact hstacked.append [a]

/-- At the end of every run that drops the guards of a listed thread in the opposite order, those that are kept are stacked. -/
theorem stacked_run {name : Option String} (honce : TakenOnce acts h) (hthread : Spawned acts h (.thread name))
    (hscoped : Scoped acts h) (hl : (start.run acts).Lists h) :
    ∃ shown, (start.run acts).shownState? h = some shown ∧ Stacked acts ((start.run acts).keptBy h) shown := by
  induction acts using List.reverseRecOn with
  | nil => cases hl
  | append_singleton acts a ih =>
    have hlists := hl
    rw [run_concat] at hlists
    rcases (lists_becomes (becomes_step _ a)).mp hlists with hnew | ⟨hold, -⟩
    · -- the thread is registered only now, so it is `running`, and there is no guard of it
      obtain ⟨spawn, hspawned, hshown⟩ := shownState?_of_registers hnew hlists
      obtain rfl : spawn = .thread name := (hspawned.append [a]).eq_of_once honce hthread
      have hkept : (start.run (acts ++ [a])).keptBy h = [] := by
        refine List.filter_eq_nil_iff.mpr fun x hx htask => ?_
        obtain ⟨i, g⟩ := x
        rw [run_concat] at hx
        rcases guard_of_becomes (becomes_step _ a) hx with hx | ⟨n, t, state, rfl, -⟩
        · have hregistered := registered_of_guard hx
          rw [of_decide_eq_true htask] at hregistered
          exact honce.not_registered_twice hnew hregistered
        · cases hnew
      rw [hkept, run_concat]
      exact ⟨_, hshown, rfl⟩
    · have hthread' := hthread.of_registered honce (registered_of_lists hold)
      obtain ⟨shown, hshown, hstacked⟩ := ih honce.of_append hthread' hscoped.of_append hold
      exact stacked_step honce hscoped (hthread'.not_carries honce.of_append) hold hl hshown hstacked

/-! ## What no other task notices -/

/-- An entry into a state changes the state of the task that the tracker finds on the thread, and of no other. -/
theorem shownState?_enterState_other {n t : Nat} {x : Handle} (hx : ∀ id, w.current? n t = some id → x ≠ ⟨t, id⟩)
    (state : String) : (w.step (.enterState n t state)).1.shownState? x = w.shownState? x := by
  cases hguard : w.guardFor? n t with
  | none => simp only [step, enterState, hguard]
  | some g =>
    have htask : g.task ≠ x := by
      have hmem := mem_concerns_of_guardFor? hguard state
      rw [concerns, Option.mem_toList, Option.map_eq_some_iff] at hmem
      obtain ⟨id, hcurrent, hid⟩ := hmem
      rw [← hid]
      exact (hx id hcurrent).symm
    rw [step_enterState hguard]
    exact shownState?_setState_other htask state

/-- The drop of a guard changes the state of its task, and of no other. -/
theorem shownState?_dropGuard_other {x : Handle} (hx : ∀ g, w.guards.lookup i = some g → x ≠ g.task) :
    (w.step (.dropGuard i)).1.shownState? x = w.shownState? x := by
  cases hguard : w.guards.lookup i with
  | none => simp only [step, dropGuard, hguard]
  | some g =>
    rw [step_dropGuard hguard]
    exact shownState?_setState_other (hx g hguard).symm g.previous

/-- Where a tracker finds no task, there is no guard to be given. -/
theorem guardFor?_of_current?_none {n t : Nat} (hcurrent : w.current? n t = none) : w.guardFor? n t = none := by
  simp only [guardFor?, hcurrent]

/-! ## At every moment -/

/-- Take a task that was spawned as a thread, in a run in which its guards are dropped in the opposite order of that in which they
were given, whatever else happens between. At every moment at which the thread is listed, a snapshot shows it in the state for
which the innermost of the guards that are kept was given, and as `running` if none is kept. An entry into a state and the drop of
a guard never change the state of another task, and where a tracker finds no task, an entry gives no guard and changes nothing. -/
theorem thread_shows_innermost_annotation (acts : List Act) {h : Handle} {name : Option String} (honce : TakenOnce acts h)
    (hthread : Spawned acts h (.thread name)) (hscoped : Scoped acts h) :
    (∀ before later, acts = before ++ later → (start.run before).Lists h →
      ((∀ i g, (i, g) ∈ (start.run before).guards → g.task ≠ h) →
        (start.run before).shownState? h = some TaskState.running) ∧
      ∀ i g, (i, g) ∈ (start.run before).guards → g.task = h →
        (∀ j g', (j, g') ∈ (start.run before).guards → g'.task = h → j ≤ i) →
        (∃ state, Gave before i state) ∧ ∀ state, Gave before i state → (start.run before).shownState? h = some state) ∧
    ∀ w : Tracking,
      (∀ n t state x, (∀ id, w.current? n t = some id → x ≠ ⟨t, id⟩) →
        (w.step (.enterState n t state)).1.shownState? x = w.shownState? x) ∧
      (∀ i x, (∀ g, w.guards.lookup i = some g → x ≠ g.task) →
        (w.step (.dropGuard i)).1.shownState? x = w.shownState? x) ∧
      ∀ n t, w.current? n t = none → w.guardFor? n t = none ∧ ∀ state, w.step (.enterState n t state) = (w, []) := by
  refine ⟨?_, fun w => ⟨?_, ?_, ?_⟩⟩
  · rintro before later rfl hl
    have hbefore := hthread.of_registered honce (registered_of_lists hl)
    obtain ⟨shown, hshown, hstacked⟩ := stacked_run honce.of_append hbefore hscoped.of_append hl
    constructor
    · intro hnone
      have hkept : (start.run before).keptBy h = [] :=
        List.filter_eq_nil_iff.mpr fun x hx htask => hnone x.1 x.2 hx (of_decide_eq_true htask)
      rw [hkept] at hstacked
      rw [hshown, hstacked]
    · intro i g hmem htask hlast
      obtain ⟨rest, hkept, -⟩ := exists_rest_of_last (descending_keptBy before h) (mem_keptBy.mpr ⟨hmem, htask⟩)
        fun j g' hmem => hlast j g' (mem_keptBy.mp hmem).1 (mem_keptBy.mp hmem).2
      rw [hkept] at hstacked
      obtain ⟨hgave, -⟩ := hstacked
      refine ⟨⟨shown, hgave⟩, fun state hstate => ?_⟩
      rw [hshown, hgave.unique hstate]
  · intro n t state x hx
    exact shownState?_enterState_other hx state
  · intro i x hx
    exact shownState?_dropGuard_other hx
  · intro n t hcurrent
    exact ⟨guardFor?_of_current?_none hcurrent, step_enterState_of_current?_none hcurrent⟩

/-- A thread that has entered two states, one within the other, and left the inner one. -/
def outerState : List Act :=
  workerRun ++ [.enterState 1 1 "syscall", .enterState 1 1 "IO wait", .dropGuard 1]

theorem scoped_outerState : Scoped outerState ⟨1, ⟨1⟩⟩ := by
  intro w i g hmem _ _ j g' hkept _
  simp only [outerState, workerRun, List.cons_append, List.nil_append, moments, List.mem_cons, Prod.mk.injEq, reduceCtorEq,
    and_false, false_or, List.not_mem_nil, or_false, Act.dropGuard.injEq] at hmem
  obtain ⟨rfl, rfl⟩ := hmem
  change (j, g') ∈ [(1, ⟨⟨1, ⟨1⟩⟩, "syscall"⟩), (0, ⟨⟨1, ⟨1⟩⟩, TaskState.running⟩)] at hkept
  simp only [List.mem_cons, Prod.mk.injEq, List.not_mem_nil, or_false] at hkept
  omega

theorem outer_state_shown :
    TakenOnce outerState ⟨1, ⟨1⟩⟩ ∧ Spawned outerState ⟨1, ⟨1⟩⟩ (.thread (some "worker")) ∧ Scoped outerState ⟨1, ⟨1⟩⟩ ∧
      (start.run outerState).Lists ⟨1, ⟨1⟩⟩ ∧ (start.run outerState).shownState? ⟨1, ⟨1⟩⟩ = some "syscall" := by
  have honce : TakenOnce outerState ⟨1, ⟨1⟩⟩ := by
    unfold TakenOnce
    decide
  have hl : (start.run outerState).Lists ⟨1, ⟨1⟩⟩ := isSome_shownState?_iff.mp rfl
  have hkept : (start.run outerState).guards = [(0, ⟨⟨1, ⟨1⟩⟩, TaskState.running⟩)] := rfl
  obtain ⟨hshown, -⟩ := thread_shows_innermost_annotation outerState honce (spawned_worker _) scoped_outerState
  obtain ⟨-, hinner⟩ := hshown outerState [] (List.append_nil _).symm hl
  refine ⟨honce, spawned_worker _, scoped_outerState, hl, ?_⟩
  obtain ⟨-, hstate⟩ := hinner 0 ⟨⟨1, ⟨1⟩⟩, TaskState.running⟩ (hkept ▸ List.mem_singleton.mpr rfl) rfl
    fun j g' hmem _ => by
      rw [hkept] at hmem
      cases List.mem_singleton.mp hmem
      exact Nat.le_refl _
  refine hstate "syscall" ⟨start.run workerRun, 1, 1, _, ?_, rfl, rfl⟩
  exact List.mem_of_getElem? (i := 4) rfl

end Stragglers.Tracking
