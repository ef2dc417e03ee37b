import Stragglers.Proofs.Tracking.Lifetime

/-!
# What runs on a thread

`Switches` lists what an act can make of one thread, and `switches_becomes` says that the list is complete. The slot of a thread
is that of its innermost body, and what each body puts back when it ends is the task of the next one (`Nested`); so a tracker
that finds its task in the slot finds the innermost task of the thread.
-/

namespace Stragglers.Tracking

/-! ## One thread -/

/-- What an act can make of a thread. -/
inductive Switches (w : Tracking) (a : Act) (n : Nat) : ThreadState → Prop where
  | same : Switches w a n (w.thread n)
  | launched {c : Call} {name : Option String} (hlaunching : c ∈ w.launching) (hspawn : c.spawn = .thread name) :
      Switches w a n { w.thread n with waiting := some c.task }
  | begun {h : Handle} (hwaiting : (w.thread n).waiting = some h) :
      Switches w a n ⟨some h, ⟨.thread, h, (w.thread n).slot⟩ :: (w.thread n).active, none⟩
  | polled {f : Nat} {h : Handle} (hact : a = .beginPoll n f) (hfuture : w.futures.lookup f = some h) :
      Switches w a n
        { w.thread n with slot := some h, active := ⟨.poll f, h, (w.thread n).slot⟩ :: (w.thread n).active }
  | ended {b : Body} {h : Handle} {outer : Option Handle} {rest : List Activation}
      (hactive : (w.thread n).active = ⟨b, h, outer⟩ :: rest) :
      Switches w a n { w.thread n with slot := outer, active := rest }

variable {w w' : Tracking} {a : Act} {h : Handle} {n : Nat}

/-- A change of one thread is a change of that thread. -/
theorem switches_setThread {m : Nat} {s : ThreadState} (hs : m = n → Switches w a n s) :
    Switches w a n ((w.setThread m s).thread n) := by
  by_cases hn : n = m
  · subst hn
    rw [setThread_self]
    exact hs rfl
  · rw [setThread_other s hn]
    exact .same

/-- An act makes of each thread one of the things listed. -/
theorem switches_becomes (hb : w.Becomes a w') (n : Nat) : w.Switches a n (w'.thread n) := by
  cases hb with
  | same | called | registered | futureLaunched | launchFailed | futureDropped | stateEntered | guardDropped |
      runtimeEnded => exact .same
  | threadLaunched hlaunching hspawn =>
    refine switches_setThread fun hn => ?_
    subst hn
    exact .launched (call_of_find? hlaunching).2 hspawn
  | threadBegun hwaiting =>
    refine switches_setThread fun hn => ?_
    subst hn
    exact .begun hwaiting
  | pollBegun hfuture =>
    refine switches_setThread fun hn => ?_
    subst hn
    exact .polled rfl hfuture
  | threadEnded hactive | pollPending hactive | pollEnded hactive =>
    refine switches_setThread fun hn => ?_
    subst hn
    exact .ended hactive

/-! ## Nesting -/

/-- The slot is that of the innermost body, and each body puts back the slot of the next one. -/
def Nested : Option Handle → List Activation → Prop
  | slot, [] => slot = none
  | slot, x :: rest => slot = some x.task ∧ Nested x.outer rest

/-- Every act keeps the bodies of a thread nested. -/
theorem nested_becomes (hb : w.Becomes a w') (hw : Nested (w.thread n).slot (w.thread n).active) :
    Nested (w'.thread n).slot (w'.thread n).active := by
  have hs := switches_becomes hb n
  generalize w'.thread n = s at hs
  cases hs with
  | same | launched => exact hw
  | begun | polled => exact ⟨rfl, hw⟩
  | ended hactive =>
    rw [hactive] at hw
    exact hw.2

/-- The bodies of each thread are nested after every run. -/
theorem nested_run (acts : List Act) (n : Nat) :
    Nested ((start.run acts).thread n).slot ((start.run acts).thread n).active := by
  induction acts using List.reverseRecOn with
  | nil => rfl
  | append_singleton acts a ih =>
    rw [run_concat]
    exact nested_becomes (becomes_step _ a) ih

/-- The task in the slot is one that runs on the thread. -/
theorem mem_handles_of_slot (hw : Nested (w.thread n).slot (w.thread n).active) (hslot : (w.thread n).slot = some h) :
    h ∈ (w.thread n).handles := by
  rw [hslot] at hw
  cases hactive : (w.thread n).active with
  | nil =>
    rw [hactive] at hw
    cases hw
  | cons x rest =>
    rw [hactive] at hw
    obtain ⟨hx, -⟩ := hw
    cases hx
    rw [ThreadState.handles, hactive]
    exact List.mem_append_left _ (List.mem_map_of_mem List.mem_cons_self)

/-! ## Tasks that rest -/

/-- No thread holds the task: it is not launched, or waits for a poll. -/
def Rests (w : Tracking) (h : Handle) : Prop :=
  ∀ n, h ∉ (w.thread n).handles

/-- The act begins a poll of the task. -/
def BeginsPoll (w : Tracking) (h : Handle) (a : Act) : Prop :=
  ∃ n f, a = .beginPoll n f ∧ w.futures.lookup f = some h

theorem mem_handles_of_active {x : Activation} (hx : x ∈ (w.thread n).active) : x.task ∈ (w.thread n).handles :=
  List.mem_append_left _ (List.mem_map_of_mem hx)

/-- A task that is not launched as a thread rests until a poll of it begins. -/
theorem Rests.becomes (hr : w.Rests h) (hb : w.Becomes a w') (hspawn : ∀ c ∈ w.launching, c.task = h → c.spawn = .future)
    (hpoll : ¬w.BeginsPoll h a) : w'.Rests h := by
  intro n hmem
  have hs := switches_becomes hb n
  generalize w'.thread n = s at hs hmem
  cases hs with
  | same => exact hr n hmem
  | launched hlaunching hthread =>
    simp only [ThreadState.handles, Option.toList_some, List.mem_append, List.mem_singleton] at hmem
    rcases hmem with hmem | rfl
    · exact hr n (List.mem_append_left _ hmem)
    · have hfuture := hspawn _ hlaunching rfl
      rw [hthread] at hfuture
      cases hfuture
  | begun hwaiting =>
    refine hr n ?_
    simp only [ThreadState.handles, List.map_cons, Option.toList_none, List.append_nil, List.mem_cons] at hmem
    rcases hmem with rfl | hmem
    · rw [ThreadState.handles, hwaiting]
      exact List.mem_append_right _ (List.mem_singleton.mpr rfl)
    · exact List.mem_append_left _ hmem
  | polled hact hfuture =>
    simp only [ThreadState.handles, List.map_cons, List.cons_append, List.mem_cons] at hmem
    rcases hmem with rfl | hmem
    · exact hpoll ⟨n, _, hact, hfuture⟩
    · exact hr n hmem
  | ended hactive =>
    refine hr n ?_
    rw [handles_pop _ hactive]
    exact List.mem_cons_of_mem _ hmem

end Stragglers.Tracking
