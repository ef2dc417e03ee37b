import Stragglers.Proofs.Tracking.Once
import Stragglers.Proofs.Tracking.Slots

/-!
# How a task was spawned

A run is looked at by its moments: each act with the trackers that it found. The moment at which a call took the number of a
task says how the task was spawned (`Spawned`), and no two moments say it of one task (`Spawned.unique`). What holds a task is
of its kind (`Kinds`): only threads wait to begin or run as bodies, and only async tasks have futures.
-/

namespace Stragglers.Tracking

/-! ## Moments -/

/-- The acts of a run, each with the trackers that it found. -/
def moments (w : Tracking) : List Act → List (Tracking × Act)
  | [] => []
  | a :: acts => (w, a) :: moments (w.step a).1 acts

theorem moments_append (w : Tracking) (acts acts' : List Act) :
    w.moments (acts ++ acts') = w.moments acts ++ (w.run acts).moments acts' := by
  induction acts generalizing w with
  | nil => simp [moments, run]
  | cons b acts ih =>
    rw [List.cons_append, moments, moments, ih, List.cons_append]
    rfl

theorem moments_concat (w : Tracking) (acts : List Act) (a : Act) :
    w.moments (acts ++ [a]) = w.moments acts ++ [(w.run acts, a)] := by
  rw [moments_append, moments, moments]

theorem mem_of_mem_moments {w w' : Tracking} {a : Act} {acts : List Act} (h : (w', a) ∈ w.moments acts) : a ∈ acts := by
  induction acts generalizing w with
  | nil => cases h
  | cons b acts ih =>
    rcases List.mem_cons.mp h with hfirst | hrest
    · cases hfirst
      exact List.mem_cons_self
    · exact List.mem_cons_of_mem _ (ih hrest)

/-! ## Spawned once -/

/-- In this run a call spawned the task, and so took its number. -/
def Spawned (acts : List Act) (h : Handle) (spawn : Spawn) : Prop :=
  ∃ w entry site, (w, .call h.tracker spawn entry site) ∈ start.moments acts ∧ w.nextHandle h.tracker = h

variable {acts acts' : List Act} {a : Act} {h : Handle} {spawn spawn' : Spawn}

theorem Spawned.append (hs : Spawned acts h spawn) (acts' : List Act) : Spawned (acts ++ acts') h spawn := by
  obtain ⟨w, entry, site, hmem, hnext⟩ := hs
  refine ⟨w, entry, site, ?_, hnext⟩
  rw [moments_append]
  exact List.mem_append_left _ hmem

/-- A task was spawned before the last act, or by it. -/
theorem Spawned.of_concat (hs : Spawned (acts ++ [a]) h spawn) :
    Spawned acts h spawn ∨ ∃ entry site, a = .call h.tracker spawn entry site ∧ (start.run acts).nextHandle h.tracker = h := by
  obtain ⟨w, entry, site, hmem, hnext⟩ := hs
  rw [moments_concat] at hmem
  rcases List.mem_append.mp hmem with hmem | hmem
  · exact Or.inl ⟨w, entry, site, hmem, hnext⟩
  · cases List.mem_singleton.mp hmem
    exact Or.inr ⟨entry, site, rfl, hnext⟩

/-- A call spawns the task of the next number. -/
theorem spawned_call (acts : List Act) (t : Nat) (spawn : Spawn) (entry site : String) :
    Spawned (acts ++ [.call t spawn entry site]) ((start.run acts).nextHandle t) spawn := by
  refine ⟨start.run acts, entry, site, ?_, rfl⟩
  rw [moments_concat]
  exact List.mem_append_right _ (List.mem_singleton.mpr rfl)

/-- The number of a task that was spawned has been taken. -/
theorem Spawned.mem_numbers (hs : Spawned acts h spawn) : h ∈ start.along numbers acts := by
  induction acts using List.reverseRecOn with
  | nil =>
    obtain ⟨w, entry, site, hmem, -⟩ := hs
    cases hmem
  | append_singleton acts a ih =>
    rw [along_concat]
    rcases hs.of_concat with hs | ⟨entry, site, rfl, hnext⟩
    · exact List.mem_append_left _ (ih hs)
    · exact List.mem_append_right _ (Tracking.mem_numbers.mpr ⟨h.tracker, rfl, hnext.symm⟩)

/-- A task is spawned in one way. -/
theorem Spawned.eq_of_once (honce : TakenOnce acts h) (hs : Spawned acts h spawn) (hs' : Spawned acts h spawn') :
    spawn = spawn' := by
  induction acts using List.reverseRecOn with
  | nil =>
    obtain ⟨w, entry, site, hmem, -⟩ := hs
    cases hmem
  | append_singleton acts a ih =>
    rcases hs.of_concat with hs | ⟨entry, site, rfl, hnext⟩ <;> rcases hs'.of_concat with hs' | ⟨entry', site', ha, hnext'⟩
    · exact ih honce.of_append hs hs'
    · exact absurd hnext' (honce.not_nextHandle hs.mem_numbers (ha ▸ rfl))
    · exact absurd hnext (honce.not_nextHandle hs'.mem_numbers rfl)
    · cases ha
      rfl

/-- A task that has been registered was spawned before what comes next. -/
theorem Spawned.of_registered (honce : TakenOnce (acts ++ acts') h) (hs : Spawned (acts ++ acts') h spawn)
    (hmem : h ∈ start.along registers acts) : Spawned acts h spawn := by
  induction acts' using List.reverseRecOn with
  | nil =>
    rw [List.append_nil] at hs
    exact hs
  | append_singleton acts' a ih =>
    rw [← List.append_assoc] at honce hs
    rcases hs.of_concat with hs | ⟨entry, site, rfl, hnext⟩
    · exact ih honce.of_append hs
    · refine absurd hnext (honce.not_nextHandle (mem_numbers_of_registered ?_) rfl)
      rw [along_append]
      exact List.mem_append_left _ hmem

theorem Spawned.unique (hfew : Few acts) (hs : Spawned acts h spawn) (hs' : Spawned acts h spawn') : spawn = spawn' :=
  hs.eq_of_once (hfew.takenOnce h) hs'

/-! ## Held by kind -/

/-- Calls, threads and futures have tasks that were spawned as such. -/
structure Kinds (w : Tracking) (spawned : Handle → Spawn → Prop) : Prop where
  calling : ∀ {c}, c ∈ w.calling → spawned c.task c.spawn
  launching : ∀ {c}, c ∈ w.launching → spawned c.task c.spawn
  waiting : ∀ {n h}, (w.thread n).waiting = some h → ∃ name, spawned h (.thread name)
  body : ∀ {n h outer}, ⟨.thread, h, outer⟩ ∈ (w.thread n).active → ∃ name, spawned h (.thread name)
  carried : ∀ {f h}, w.Carries f h → spawned h .future

section kinds

variable {w w' : Tracking} {spawned spawned' : Handle → Spawn → Prop}

theorem kinds_start (spawned : Handle → Spawn → Prop) : start.Kinds spawned where
  calling h := by cases h
  launching h := by cases h
  waiting h := by cases h
  body h := by cases h
  carried h := by rcases h with h | ⟨n, outer, h⟩ <;> cases h

theorem Kinds.mono (hk : w.Kinds spawned) (hmono : ∀ h spawn, spawned h spawn → spawned' h spawn) : w.Kinds spawned' where
  calling hc := hmono _ _ (hk.calling hc)
  launching hc := hmono _ _ (hk.launching hc)
  waiting hw := (hk.waiting hw).imp fun _ => hmono _ _
  body hb := (hk.body hb).imp fun _ => hmono _ _
  carried hc := hmono _ _ (hk.carried hc)

/-- Every act keeps the calls to those that were spawned. -/
theorem Kinds.calling_becomes (hk : w.Kinds spawned) (hb : w.Becomes a w')
    (hnew : ∀ t spawn entry site, a = .call t spawn entry site → spawned (w.nextHandle t) spawn) {c : Call}
    (hc : c ∈ w'.calling) : spawned c.task c.spawn := by
  cases hb with
  | called =>
    rcases List.mem_append.mp hc with hc | hc
    · exact hk.calling hc
    · obtain rfl := List.mem_singleton.mp hc
      exact hnew _ _ _ _ rfl
  | registered => exact hk.calling (List.mem_filter.mp hc).1
  | same | threadLaunched | futureLaunched | launchFailed | threadBegun | threadEnded | pollBegun | pollPending | pollEnded |
      futureDropped | stateEntered | guardDropped | runtimeEnded => exact hk.calling hc

/-- Every act keeps the launches to those that were spawned. -/
theorem Kinds.launching_becomes (hk : w.Kinds spawned) (hb : w.Becomes a w') {c : Call} (hc : c ∈ w'.launching) :
    spawned c.task c.spawn := by
  cases hb with
  | registered hcalling =>
    rcases List.mem_append.mp hc with hc | hc
    · exact hk.launching hc
    · obtain rfl := List.mem_singleton.mp hc
      exact hk.calling (call_of_find? hcalling).2
  | threadLaunched | futureLaunched | launchFailed => exact hk.launching (List.mem_filter.mp hc).1
  | same | called | threadBegun | threadEnded | pollBegun | pollPending | pollEnded | futureDropped | stateEntered |
      guardDropped | runtimeEnded => exact hk.launching hc

/-- Every act lets only threads wait to begin. -/
theorem Kinds.waiting_becomes (hk : w.Kinds spawned) (hb : w.Becomes a w') {n : Nat}
    (hw : (w'.thread n).waiting = some h) : ∃ name, spawned h (.thread name) := by
  have hs := switches_becomes hb n
  generalize w'.thread n = s at hs hw
  cases hs with
  | same | polled | ended => exact hk.waiting hw
  | launched hlaunching hspawn =>
    cases hw
    exact ⟨_, hspawn ▸ hk.launching hlaunching⟩
  | begun => cases hw

/-- Every act lets only threads run as bodies of their own. -/
theorem Kinds.body_becomes (hk : w.Kinds spawned) (hb : w.Becomes a w') {n : Nat} {outer : Option Handle}
    (hbody : ⟨.thread, h, outer⟩ ∈ (w'.thread n).active) : ∃ name, spawned h (.thread name) := by
  have hs := switches_becomes hb n
  generalize w'.thread n = s at hs hbody
  cases hs with
  | same | launched => exact hk.body hbody
  | begun hwaiting =>
    rcases List.mem_cons.mp hbody with heq | hbody
    · cases heq
      exact hk.waiting hwaiting
    · exact hk.body hbody
  | polled =>
    rcases List.mem_cons.mp hbody with heq | hbody
    · cases heq
    · exact hk.body hbody
  | ended hactive => exact hk.body (hactive ▸ List.mem_cons_of_mem _ hbody)

/-- Every act gives futures to async tasks only. -/
theorem Kinds.carried_becomes (hk : w.Kinds spawned) (hb : w.Becomes a w') {f : Nat} (hc : w'.Carries f h) :
    spawned h .future := by
  rcases carries_becomes hb with ⟨hold, -⟩ | ⟨c, hlaunching, hspawn, hold, -⟩
  · exact hk.carried (hold f h hc)
  · rcases hold f h hc with hc | ⟨-, rfl⟩
    · exact hk.carried hc
    · exact hspawn ▸ hk.launching hlaunching

/-- Every act keeps what holds a task of its kind. -/
theorem Kinds.becomes (hk : w.Kinds spawned) (hb : w.Becomes a w')
    (hnew : ∀ t spawn entry site, a = .call t spawn entry site → spawned (w.nextHandle t) spawn) : w'.Kinds spawned where
  calling := hk.calling_becomes hb hnew
  launching := hk.launching_becomes hb
  waiting := hk.waiting_becomes hb
  body := hk.body_becomes hb
  carried := hk.carried_becomes hb

end kinds

/-- After every run what holds a task is of the kind that the task was spawned as. -/
theorem kinds_run (acts : List Act) : (start.run acts).Kinds (Spawned acts) := by
  induction acts using List.reverseRecOn with
  | nil => exact kinds_start _
  | append_singleton acts a ih =>
    have hk : (start.run acts).Kinds (Spawned (acts ++ [a])) := ih.mono fun h spawn hs => hs.append [a]
    rw [run_concat]
    refine hk.becomes (becomes_step _ a) fun t spawn entry site ha => ?_
    subst ha
    exact spawned_call acts t spawn entry site

end Stragglers.Tracking
