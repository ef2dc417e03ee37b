import Stragglers.Proofs.Tracking.Current
import Stragglers.Proofs.Tracking.HeldOnce

/-!
# What a body leaves behind

The bodies of a thread begin and end in the manner of a stack, whatever happens on other threads between. So each body that ends
began at some moment of the run, on the bodies that are left when it ends, and these stayed below it all the time
(`exists_begin_of_suffix`). As the slot is that of the innermost body, it holds then what it held before
(`slot_restored_when_body_ends`).
-/

namespace Stragglers

/-- The thread on which an act happens, if it cannot happen on another. -/
def Act.thread? : Act → Option Nat
  | .beginThread n | .endThread n | .beginPoll n _ | .endPoll n _ | .enterState n _ _ => some n
  | _ => none

/-- The act by which a body on the thread ends: a thread returns or unwinds, and a poll ends pending, ready or by a panic. -/
def Body.EndsBy (n : Nat) : Body → Act → Prop
  | .thread, a => a = .endThread n
  | .poll _, a => ∃ pending, a = .endPoll n pending

namespace Tracking

variable {w w' : Tracking} {acts : List Act} {a : Act} {n : Nat} {x : Activation} {rest : List Activation}

/-- With the act the body begins on the thread, on top of those that run there. -/
def Begins (w : Tracking) (n : Nat) (a : Act) (x : Activation) : Prop :=
  ((w.step a).1.thread n).active = x :: (w.thread n).active

/-- With the act the innermost body of the thread ends, which is this one. -/
def Ends (w : Tracking) (n : Nat) (a : Act) (x : Activation) : Prop :=
  (w.thread n).active = x :: ((w.step a).1.thread n).active

/-! ## Bodies as a stack -/

/-- An act leaves the bodies of a thread as they are, begins one on top of them, or ends the innermost. -/
theorem active_becomes (hb : w.Becomes a w') (n : Nat) :
    (w'.thread n).active = (w.thread n).active ∨ (∃ x, (w'.thread n).active = x :: (w.thread n).active) ∨
      ∃ x, (w.thread n).active = x :: (w'.thread n).active := by
  have hs := switches_becomes hb n
  generalize w'.thread n = s at hs
  cases hs with
  | same | launched => exact Or.inl rfl
  | begun | polled => exact Or.inr (Or.inl ⟨_, rfl⟩)
  | ended hactive => exact Or.inr (Or.inr ⟨_, hactive⟩)

/-- A body is ended by the act that ends its kind. -/
theorem ends_of_active {body : Body} {h : Handle} {outer : Option Handle}
    (hactive : (w.thread n).active = ⟨body, h, outer⟩ :: rest) (ha : body.EndsBy n a) : w.Ends n a ⟨body, h, outer⟩ := by
  unfold Ends
  cases body with
  | thread =>
    cases ha
    simp only [step, endThread, hactive, setThread_self]
  | poll f =>
    obtain ⟨pending, rfl⟩ := ha
    have hself := setThread_self (w := w) (n := n) { w.thread n with slot := outer, active := rest }
    simp only [step, endPoll, hactive]
    -- what becomes of the task afterwards leaves the thread as it is
    cases pending <;> exact congrArg (fun s => _ :: s.active) hself.symm

/-- A body began at some moment of the run, on those that are below it, and has stayed on them since. -/
theorem exists_begin_of_suffix (hsuffix : x :: rest <:+ ((start.run acts).thread n).active) :
    ∃ before b inside, acts = before ++ b :: inside ∧ (start.run before).Begins n b x ∧
      ((start.run before).thread n).active = rest ∧
      ∀ p, p <+: inside → x :: rest <:+ ((start.run (before ++ b :: p)).thread n).active := by
  induction acts using List.reverseRecOn with
  | nil => exact absurd (List.suffix_nil.mp hsuffix) (List.cons_ne_nil _ _)
  | append_singleton acts a ih =>
    -- if the body was there before the last act, what is known of the run until then is extended by one moment
    have hextend (hbefore : x :: rest <:+ ((start.run acts).thread n).active) :
        ∃ before b inside, acts ++ [a] = before ++ b :: inside ∧ (start.run before).Begins n b x ∧
          ((start.run before).thread n).active = rest ∧
          ∀ p, p <+: inside → x :: rest <:+ ((start.run (before ++ b :: p)).thread n).active := by
      obtain ⟨before, b, inside, rfl, hbegins, hbelow, hstays⟩ := ih hbefore
      refine ⟨before, b, inside ++ [a], by rw [List.append_assoc, List.cons_append], hbegins, hbelow, ?_⟩
      intro p hp
      rcases List.prefix_concat_iff.mp hp with rfl | hp
      · rw [List.append_assoc, List.cons_append] at hsuffix
        exact hsuffix
      · exact hstays p hp
    have hlast := active_becomes (becomes_step (start.run acts) a) n
    rw [run_concat] at hsuffix
    rcases hlast with hsame | ⟨y, hpush⟩ | ⟨y, hpop⟩
    · rw [hsame] at hsuffix
      exact hextend hsuffix
    · rw [hpush] at hsuffix
      rcases List.suffix_cons_iff.mp hsuffix with heq | hbefore
      · cases heq
        refine ⟨acts, a, [], rfl, hpush, rfl, fun p hp => ?_⟩
        obtain rfl := List.prefix_nil.mp hp
        rw [← run_concat] at hpush
        exact ⟨[], hpush.symm⟩
      · exact hextend hbefore
    · refine hextend ?_
      rw [hpop]
      exact hsuffix.trans (List.suffix_cons _ _)

/-! ## The slot -/

/-- The slot is that of the innermost body. -/
theorem slot_eq_of_nested {slot : Option Handle} {active : List Activation} (hw : Nested slot active) :
    slot = active.head?.map (·.task) := by
  cases active with
  | nil => exact hw
  | cons x rest => exact hw.1

theorem current?_eq_some_iff {t : Nat} {id : TaskId} : w.current? n t = some id ↔ (w.thread n).slot = some ⟨t, id⟩ := by
  unfold current?
  cases (w.thread n).slot with
  | none => simp
  | some h =>
    obtain ⟨t', id'⟩ := h
    simp

/-- A task that a tracker finds on a thread is that of the innermost body. -/
theorem exists_innermost_of_current? {t : Nat} {id : TaskId} (hw : Nested (w.thread n).slot (w.thread n).active)
    (hcurrent : w.current? n t = some id) : ∃ x rest, (w.thread n).active = x :: rest ∧ x.task = ⟨t, id⟩ := by
  rw [current?_eq_some_iff, slot_eq_of_nested hw] at hcurrent
  cases hactive : (w.thread n).active with
  | nil =>
    rw [hactive] at hcurrent
    cases hcurrent
  | cons x rest =>
    rw [hactive] at hcurrent
    exact ⟨x, rest, rfl, Option.some.inj hcurrent⟩

/-- Where nothing tracked runs, no tracker finds a task. -/
theorem current?_of_nothing_active (hw : Nested (w.thread n).slot (w.thread n).active) (hnone : (w.thread n).active = [])
    (t : Nat) : w.current? n t = none := by
  rw [hnone] at hw
  have hslot : (w.thread n).slot = none := hw
  simp only [current?, hslot]

/-- What happens on one thread leaves the slots of all others as they are. -/
theorem slot_of_other_thread (ha : a.thread? ≠ some n) : ((w.step a).1.thread n).slot = (w.thread n).slot := by
  have hb := becomes_step w a
  generalize (w.step a).1 = w' at hb
  have hother : ∀ {m : Nat} {s : ThreadState}, some m ≠ some n → (w.setThread m s).thread n = w.thread n :=
    fun hm => setThread_other _ fun heq => hm (congrArg some heq.symm)
  cases hb with
  | same | called | registered | futureLaunched | launchFailed | futureDropped | stateEntered | guardDropped |
      runtimeEnded => rfl
  | @threadLaunched h c =>
    -- a thread that is spawned gets a task to begin with, and its slot stays free
    show ((w.setThread w.nextThread _).thread n).slot = _
    by_cases hn : n = w.nextThread
    · subst hn
      rw [setThread_self]
    · rw [setThread_other _ hn]
  | threadBegun | threadEnded | pollBegun | pollPending | pollEnded => exact congrArg ThreadState.slot (hother ha)

/-- Take any run, and any thread. When a body on it ends, be it that of a thread or a poll, by return, pending, ready or by a
panic, then it began at some moment of the run, stayed on top of what was running on the thread then, and the slot holds what it
held before that moment. Outside of all bodies no tracker finds a task. A task that a tracker finds is that of the innermost body,
and is listed if its number is taken once. What happens on another thread changes nothing that a tracker finds here. -/
theorem slot_restored_when_body_ends (acts : List Act) (n : Nat) :
    (∀ e x, (start.run acts).Ends n e x →
      ∃ before b inside, acts = before ++ b :: inside ∧ (start.run before).Begins n b x ∧
        (∀ p, p <+: inside →
          x :: ((start.run before).thread n).active <:+ ((start.run (before ++ b :: p)).thread n).active) ∧
        ((start.run (acts ++ [e])).thread n).slot = ((start.run before).thread n).slot) ∧
    (∀ x rest e, ((start.run acts).thread n).active = x :: rest → x.body.EndsBy n e → (start.run acts).Ends n e x) ∧
    (((start.run acts).thread n).active = [] → ∀ t, (start.run acts).current? n t = none) ∧
    (∀ t id, (start.run acts).current? n t = some id →
      (∃ x rest, ((start.run acts).thread n).active = x :: rest ∧ x.task = ⟨t, id⟩) ∧
        (TakenOnce acts ⟨t, id⟩ → id ∈ ((start.run acts).registry t).ids)) ∧
    ∀ a t, a.thread? ≠ some n → (start.run (acts ++ [a])).current? n t = (start.run acts).current? n t := by
  refine ⟨?_, ?_, current?_of_nothing_active (nested_run acts n), ?_, ?_⟩
  · intro e x hends
    have hsuffix : x :: (((start.run acts).step e).1.thread n).active <:+ ((start.run acts).thread n).active :=
      ⟨[], Eq.symm hends⟩
    obtain ⟨before, b, inside, hsplit, hbegins, hbelow, hstays⟩ := exists_begin_of_suffix hsuffix
    refine ⟨before, b, inside, hsplit, hbegins, hbelow ▸ hstays, ?_⟩
    rw [slot_eq_of_nested (nested_run _ n), slot_eq_of_nested (nested_run _ n), hbelow, run_concat]
  · rintro ⟨body, h, outer⟩ rest e hactive hend
    exact ends_of_active hactive hend
  · intro t id hcurrent
    obtain ⟨x, rest, hactive, htask⟩ := exists_innermost_of_current? (nested_run acts n) hcurrent
    refine ⟨⟨x, rest, hactive, htask⟩, fun honce => ?_⟩
    have hheld : x.task ∈ (start.run acts).heldBy (.thread n) :=
      List.mem_append_left _ (List.mem_map_of_mem (mem_active hactive))
    rw [htask] at hheld
    exact honce.lists_of_heldBy hheld
  · intro a t ha
    unfold current?
    rw [run_concat, slot_of_other_thread ha]

/-- The poll of the job has begun on the thread of the worker, and leaves the slot as it was there. -/
theorem job_leaves_slot_of_worker :
    (start.run jobInWorker).Ends 1 (.endPoll 1 false) ⟨.poll 0, ⟨2, ⟨1⟩⟩, some ⟨1, ⟨1⟩⟩⟩ ∧
      (∃ before b inside, jobInWorker = before ++ b :: inside ∧
        (start.run before).Begins 1 b ⟨.poll 0, ⟨2, ⟨1⟩⟩, some ⟨1, ⟨1⟩⟩⟩ ∧
        ((start.run (jobInWorker ++ [.endPoll 1 false])).thread 1).slot = ((start.run before).thread 1).slot) ∧
      TakenOnce jobInWorker ⟨2, ⟨1⟩⟩ ∧ (start.run jobInWorker).current? 1 2 = some ⟨1⟩ ∧
      ⟨1⟩ ∈ ((start.run jobInWorker).registry 2).ids := by
  have honce : TakenOnce jobInWorker ⟨2, ⟨1⟩⟩ := by
    unfold TakenOnce
    decide
  have hcurrent : (start.run jobInWorker).current? 1 2 = some ⟨1⟩ := rfl
  obtain ⟨hrestored, hends, -, hfound, -⟩ := slot_restored_when_body_ends jobInWorker 1
  have hend := hends ⟨.poll 0, ⟨2, ⟨1⟩⟩, some ⟨1, ⟨1⟩⟩⟩ _ (.endPoll 1 false) rfl ⟨false, rfl⟩
  obtain ⟨before, b, inside, hsplit, hbegins, -, hslot⟩ := hrestored _ _ hend
  exact ⟨hend, ⟨before, b, inside, hsplit, hbegins, hslot⟩, honce, hcurrent, (hfound 2 ⟨1⟩ hcurrent).2 honce⟩

end Tracking

end Stragglers
