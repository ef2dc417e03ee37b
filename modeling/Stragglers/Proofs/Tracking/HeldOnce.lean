import Mathlib.Algebra.Order.BigOperators.Group.Finset
import Stragglers.Proofs.Tracking.Once

/-!
# Tasks that are held are listed

It is counted how often a task is held. An act holds it more often only when it registers it, and less often when it drops its
registration, so a task is never held and dropped more often than it was registered (`heldCount_run`). If its number is taken
once, then it is listed for as long as anything holds it (`TakenOnce.lists_of_heldBy`). Other numbers may come again, and then
two of their tasks share one entry, for which `Custody` is too much to ask.
-/

namespace Stragglers.Tracking

/-- How often these holders hold the task. -/
def heldCount (held : Holder → List Handle) (os : Finset Holder) (h : Handle) : Nat :=
  ∑ o ∈ os, (held o).count h

/-! ## Counting what is held -/

section counting

variable {held held' : Holder → List Handle} {o : Holder} {x : Handle}

/-- If one holder changes, the count changes by as much as what it holds. -/
theorem heldCount_le (hother : ∀ p, p ≠ o → held' p = held p) (less more : Nat) {h : Handle}
    (hcount : (held' o).count h + less ≤ (held o).count h + more) (os : Finset Holder) :
    heldCount held' os h + less ≤ heldCount held (insert o os) h + more := by
  unfold heldCount
  have hsub : ∑ p ∈ os, (held' p).count h ≤ ∑ p ∈ insert o os, (held' p).count h :=
    Finset.sum_le_sum_of_subset (Finset.subset_insert o os)
  have hrest : ∑ p ∈ (insert o os).erase o, (held' p).count h = ∑ p ∈ (insert o os).erase o, (held p).count h := by
    refine Finset.sum_congr rfl fun p hp => ?_
    rw [hother p (Finset.ne_of_mem_erase hp)]
  have hnow := Finset.add_sum_erase (insert o os) (fun p => (held' p).count h) (Finset.mem_insert_self o os)
  have hbefore := Finset.add_sum_erase (insert o os) (fun p => (held p).count h) (Finset.mem_insert_self o os)
  omega

/-- What is gained is held once more. -/
theorem heldCount_gains (hg : Gains held held' o x) (os : Finset Holder) (h : Handle) :
    heldCount held' os h ≤ heldCount held (insert o os) h + [x].count h := by
  have hcount := hg.perm.count_eq h
  rw [List.count_cons, ← List.count_singleton] at hcount
  exact heldCount_le hg.other 0 _ (Nat.le_of_eq hcount) os

/-- What is lost is held once less. -/
theorem heldCount_loses (hg : Gains held held' o x) (os : Finset Holder) (h : Handle) :
    heldCount held os h + [x].count h ≤ heldCount held' (insert o os) h := by
  have hcount := hg.perm.count_eq h
  rw [List.count_cons, ← List.count_singleton] at hcount
  exact heldCount_le (fun p hp => (hg.other p hp).symm) _ 0 (Nat.le_of_eq hcount.symm) os

theorem heldCount_perm (hp : ∀ p, (held' p).Perm (held p)) (os : Finset Holder) (h : Handle) :
    heldCount held' os h = heldCount held os h :=
  Finset.sum_congr rfl fun p _ => (hp p).count_eq h

end counting

variable {w w' : Tracking} {acts : List Act} {a : Act} {h : Handle}

/-- A call that is found and taken from those that launch holds its task no more. -/
theorem heldCount_withoutLaunching {x : Handle} {c : Call} (hlaunching : w.launching.find? (·.task = x) = some c)
    (os : Finset Holder) (h : Handle) :
    heldCount { w with launching := w.launching.filter (·.task ≠ x) }.heldBy os h + [c.task].count h ≤
      heldCount w.heldBy (insert .callers os) h := by
  obtain ⟨rfl, hmem⟩ := call_of_find? hlaunching
  have hcount := count_filter_add_le (f := (·.task)) (p := (·.task ≠ c.task)) hmem (by simp) h
  refine heldCount_le (fun p hp => ?_) _ 0 hcount os
  exact heldBy_eq (fun heq => absurd heq hp) (fun _ _ => rfl) fun _ => rfl

/-- A future that is found and taken from those that wait holds its task no more. -/
theorem heldCount_withoutFuture {f : Nat} {x : Handle} (hfuture : w.futures.lookup f = some x) (os : Finset Holder)
    (h : Handle) :
    heldCount (w.withoutFuture f).heldBy os h + [x].count h ≤ heldCount w.heldBy (insert .runtime os) h := by
  have hcount := count_filter_add_le (f := (·.2)) (p := (·.1 ≠ f)) (mem_of_lookup hfuture) (by simp) h
  refine heldCount_le (fun p hp => ?_) _ 0 hcount os
  exact heldBy_eq (fun _ => rfl) (fun _ _ => rfl) fun heq => absurd heq hp

/-- A thread that is launched holds the task at most once more, in the place of any other that waits there. -/
theorem heldCount_setWaiting (n : Nat) (x : Handle) (os : Finset Holder) (h : Handle) :
    heldCount (w.setThread n { w.thread n with waiting := some x }).heldBy os h ≤
      heldCount w.heldBy (insert (.thread n) os) h + [x].count h := by
  refine heldCount_le (fun p hp => ?_) 0 _ ?_ os
  · exact heldBy_eq (fun _ => rfl) (fun m hm => setThread_other _ fun heq => hp (heq ▸ hm)) fun _ => rfl
  · simp only [heldBy, setThread_self, ThreadState.handles, List.count_append, Option.toList_some]
    omega

/-! ## Acts and runs -/

/-- What an act drops is held less often, and what is held more often is registered. Before the act the holders that it touches
are to be counted too. -/
theorem heldCount_becomes (hb : w.Becomes a w') (os : Finset Holder) (h : Handle) :
    ∃ os', heldCount w'.heldBy os h + (w.drops a).count h ≤ heldCount w.heldBy os' h + (w.registers a).count h := by
  cases hb with
  | same hidle => exact ⟨os, by rw [hidle.drops]; exact Nat.add_le_add_left (Nat.zero_le _) _⟩
  | called | stateEntered | guardDropped => exact ⟨os, Nat.le_refl _⟩
  | registered hcalling =>
    rw [registers_register hcalling]
    refine ⟨insert .callers os, heldCount_gains ?_ os h⟩
    exact gains_call rfl rfl rfl
  | @threadLaunched x c name hlaunching hspawn hname =>
    have hcall := heldCount_withoutLaunching hlaunching (insert (.thread w.nextThread) os) h
    have hthread := heldCount_setWaiting (w := { w with launching := w.launching.filter (·.task ≠ x) }) w.nextThread c.task
      os h
    rw [drops_of_threadLaunched hlaunching hspawn hname]
    exact ⟨_, Nat.le_trans hthread hcall⟩
  | futureLaunched hlaunching hspawn hruntime =>
    have hcall := heldCount_withoutLaunching hlaunching (insert .runtime os) h
    rw [drops_of_futureLaunched hlaunching hspawn hruntime]
    refine ⟨_, Nat.le_trans (heldCount_gains ?_ os h) hcall⟩
    exact gains_future rfl rfl rfl
  | launchFailed hlaunching hfails =>
    rw [drops_launch hlaunching, hfails]
    exact ⟨_, heldCount_withoutLaunching hlaunching os h⟩
  | threadBegun hwaiting => exact ⟨os, Nat.le_of_eq (heldCount_perm (perm_beginThread hwaiting) os h)⟩
  | threadEnded hactive =>
    rw [drops_endThread_of_active hactive]
    exact ⟨_, heldCount_loses (gains_pop hactive) os h⟩
  | @pollBegun n f x hfuture =>
    have hrest := heldCount_withoutFuture hfuture (insert (.thread n) os) h
    refine ⟨_, Nat.le_trans (heldCount_gains ?_ os h) hrest⟩
    exact gains_poll (w := w.withoutFuture f)
  | pollPending hactive =>
    have hrest := heldCount_loses (gains_pop hactive) (insert .runtime os) h
    refine ⟨_, Nat.le_trans (heldCount_gains ?_ os h) hrest⟩
    exact gains_future rfl rfl rfl
  | pollEnded hactive =>
    rw [drops_endPoll_of_active hactive]
    exact ⟨_, heldCount_loses (gains_pop hactive) os h⟩
  | futureDropped hfuture =>
    rw [drops_dropFuture hfuture]
    exact ⟨_, heldCount_withoutFuture hfuture os h⟩
  | runtimeEnded =>
    refine ⟨insert .runtime os, heldCount_le (fun p hp => ?_) _ 0 ?_ os⟩
    · exact heldBy_eq (fun _ => rfl) (fun _ _ => rfl) fun heq => absurd heq hp
    · exact Nat.le_of_eq (Nat.zero_add _)

/-- A task is not held and dropped more often than it was registered. -/
theorem heldCount_run (acts : List Act) (os : Finset Holder) (h : Handle) :
    heldCount (start.run acts).heldBy os h + (start.along drops acts).count h ≤ (start.along registers acts).count h := by
  induction acts using List.reverseRecOn generalizing os with
  | nil =>
    have hnone : ∀ o ∈ os, (start.heldBy o).count h = 0 := fun o _ => by cases o <;> rfl
    exact Nat.le_of_eq (Finset.sum_eq_zero hnone)
  | append_singleton acts a ih =>
    obtain ⟨os', hstep⟩ := heldCount_becomes (becomes_step (start.run acts) a) os h
    have ih := ih os'
    rw [run_concat, along_concat, along_concat, List.count_append, List.count_append]
    omega

/-- A task that was registered and not dropped is listed. -/
theorem lists_of_registered (hregistered : h ∈ start.along registers acts) (hdropped : h ∉ start.along drops acts) :
    (start.run acts).Lists h := by
  induction acts using List.reverseRecOn with
  | nil => cases hregistered
  | append_singleton acts a ih =>
    rw [along_concat, List.mem_append] at hregistered
    rw [along_concat, List.mem_append, not_or] at hdropped
    rw [run_concat, lists_becomes (becomes_step (start.run acts) a)]
    exact hregistered.symm.imp_right fun hregistered => ⟨ih hregistered hdropped.1, hdropped.2⟩

/-- A task whose number is taken once is listed for as long as something holds it. -/
theorem TakenOnce.lists_of_heldBy (honce : TakenOnce acts h) {o : Holder} (hheld : h ∈ (start.run acts).heldBy o) :
    (start.run acts).Lists h := by
  have hrun := heldCount_run acts {o} h
  have hregisters := count_registers_run acts h
  have hpos := List.count_pos_iff.mpr hheld
  unfold TakenOnce at honce
  unfold heldCount at hrun
  rw [Finset.sum_singleton] at hrun
  refine lists_of_registered (List.count_pos_iff.mp ?_) (List.count_eq_zero.mp ?_) <;> omega

end Stragglers.Tracking
