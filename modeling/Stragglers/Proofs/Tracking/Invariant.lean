import Stragglers.Proofs.Tracking.Holding

/-!
# What holds at every moment

`Sound` is the invariant of the trackers: a registry lists what is held, each of its numbers is below the next one, and the
numbers that calls have taken are new. Every act keeps it as long as numbers are left (`sound_step`).
-/

namespace Stragglers.Tracking

/-- The future of this number is the task's: it waits for a poll or is being polled. -/
def Carries (w : Tracking) (f : Nat) (h : Handle) : Prop :=
  (f, h) ∈ w.futures ∨ ∃ n outer, ⟨.poll f, h, outer⟩ ∈ (w.thread n).active

/-- There is a number left for the act, if it takes one. -/
def HasRoom (w : Tracking) (a : Act) : Prop :=
  ∀ t, a.numbers? = some t → (w.registry t).next.toNat + 1 < UInt64.size

/-- What holds of the trackers at every moment. -/
structure Sound (w : Tracking) : Prop where
  /-- Nothing is held twice, and the registries list what is held. -/
  custody : Custody w.heldBy w.Lists
  /-- No two calls have taken one number. -/
  calls : (w.calling.map (·.task)).Nodup
  /-- The numbers that calls have taken are below the next one. -/
  given : ∀ {c}, c ∈ w.calling → c.task.task.val < (w.registry c.task.tracker).next
  /-- A task is not listed before its call registers it. -/
  unlisted : ∀ {c}, c ∈ w.calling → ¬w.Lists c.task
  /-- The numbers of each tracker's tasks increase. -/
  ordered : ∀ t, (w.registry t).Ordered
  /-- The numbers of each tracker's tasks are below its next one. -/
  below : ∀ t, (w.registry t).Below
  /-- The waiting futures have different numbers. -/
  keys : (w.futures.map (·.1)).Nodup
  /-- The numbers of futures have been given. -/
  numbered : ∀ {f h}, w.Carries f h → f < w.nextFuture
  /-- A future is that of one task. -/
  carried : ∀ {f h h'}, w.Carries f h → w.Carries f h' → h = h'
  /-- Nothing waits on a thread that has not been spawned. -/
  spawned : ∀ {n}, w.nextThread ≤ n → (w.thread n).waiting = none

theorem sound_start : start.Sound where
  custody :=
    { nodup := fun o => by cases o <;> exact List.nodup_nil
      apart := fun {o _ _} h _ => by cases o <;> cases h
      listed := fun h => by
        refine ⟨fun hh => ?_, fun hl => by cases hl⟩
        obtain ⟨o, ho⟩ := hh
        cases o <;> cases ho }
  calls := List.nodup_nil
  given h := by cases h
  unlisted h := by cases h
  ordered _ := Registry.ordered_empty
  below _ := Registry.below_empty
  keys := List.nodup_nil
  numbered h := by rcases h with h | ⟨n, outer, h⟩ <;> cases h
  carried h := by rcases h with h | ⟨n, outer, h⟩ <;> cases h
  spawned _ := rfl

variable {w w' : Tracking} {a : Act} {h : Handle} {n f : Nat}

/-! ## Holders -/

/-- Every act keeps the registries true to what is held. -/
theorem Sound.custody_becomes (hs : w.Sound) (hb : w.Becomes a w') : Custody w'.heldBy w'.Lists := by
  cases hb with
  | same => exact hs.custody
  | called => exact hs.custody.perm (fun _ => List.Perm.refl _) fun _ => lists_takeNumber
  | registered hcalling =>
    exact hs.custody.gain (gains_call rfl rfl rfl) (hs.unlisted (call_of_find? hcalling).2) fun _ => lists_enlist
  | @threadLaunched i c name hlaunching hspawn hname =>
    have hg := gains_withoutLaunching (hs.custody.nodup .callers) hlaunching
    refine hs.custody.move hg (q := .thread w.nextThread) (gains_thread rfl rfl (fun m hm => if_neg hm) ?_)
      fun _ => Iff.rfl
    simp only [setThread_self, ThreadState.handles, hs.spawned (Nat.le_refl _), Option.toList_none, List.append_nil]
    exact List.perm_append_singleton _ _
  | futureLaunched hlaunching =>
    have hg := gains_withoutLaunching (hs.custody.nodup .callers) hlaunching
    exact hs.custody.move hg (gains_future rfl rfl rfl) fun _ => Iff.rfl
  | launchFailed hlaunching hfails =>
    exact hs.custody.lose (gains_withoutLaunching (hs.custody.nodup .callers) hlaunching) fun _ => lists_release
  | threadBegun hwaiting => exact hs.custody.perm (perm_beginThread hwaiting) fun _ => Iff.rfl
  | threadEnded hactive => exact hs.custody.lose (gains_pop hactive) fun _ => lists_release
  | pollBegun hfuture =>
    exact hs.custody.move (gains_withoutFuture hs.keys hfuture) (gains_poll (w := w.withoutFuture _)) fun _ => lists_setState
  | pollPending hactive => exact hs.custody.move (gains_pop hactive) (gains_future rfl rfl rfl) fun _ => lists_setState
  | pollEnded hactive => exact hs.custody.lose (gains_pop hactive) fun _ => lists_release
  | futureDropped hfuture => exact hs.custody.lose (gains_withoutFuture hs.keys hfuture) fun _ => lists_release
  | stateEntered | guardDropped => exact hs.custody.perm (fun _ => List.Perm.refl _) fun _ => lists_setState
  | runtimeEnded =>
    refine hs.custody.clear (o := .runtime) rfl (fun _ ho => ?_) fun _ => lists_foldl_release
    exact heldBy_eq (fun _ => rfl) (fun _ _ => rfl) fun heq => absurd heq ho

/-! ## Numbers of tasks -/

/-- A call that registers its task has then no number left to register. -/
theorem not_mem_registers (hb : w.Becomes a w') {c : Call} (hc : c ∈ w'.calling) : c.task ∉ w.registers a := by
  intro hmem
  cases hb with
  | same hidle => exact List.not_mem_nil (hidle.registers ▸ hmem)
  | @registered x d hcalling =>
    obtain ⟨rfl, -⟩ := call_of_find? hcalling
    rw [registers_register hcalling] at hmem
    exact of_decide_eq_true (List.mem_filter.mp hc).2 (List.mem_singleton.mp hmem)
  | called | threadLaunched | futureLaunched | launchFailed | threadBegun | threadEnded | pollBegun | pollPending | pollEnded |
      futureDropped | stateEntered | guardDropped | runtimeEnded => cases hmem

/-- A call that has taken a number did so before, or takes the next one now. -/
theorem calling_of_becomes (hb : w.Becomes a w') {c : Call} (hc : c ∈ w'.calling) :
    c ∈ w.calling ∨ ∃ t, a.numbers? = some t ∧ c.task = w.nextHandle t := by
  cases hb with
  | called =>
    rcases List.mem_append.mp hc with hc | hc
    · exact Or.inl hc
    · exact Or.inr ⟨_, rfl, congrArg Call.task (List.mem_singleton.mp hc)⟩
  | registered => exact Or.inl (List.mem_filter.mp hc).1
  | same | threadLaunched | futureLaunched | launchFailed | threadBegun | threadEnded | pollBegun | pollPending | pollEnded |
      futureDropped | stateEntered | guardDropped | runtimeEnded => exact Or.inl hc

/-- The next number is that of no call. -/
theorem Sound.task_ne_nextHandle (hs : w.Sound) {c : Call} (hc : c ∈ w.calling) (t : Nat) : c.task ≠ w.nextHandle t := by
  intro heq
  have hlt := hs.given hc
  rw [heq] at hlt
  exact UInt64.lt_irrefl _ hlt

/-- Every act keeps the numbers that calls have taken different. -/
theorem Sound.calls_becomes (hs : w.Sound) (hb : w.Becomes a w') : (w'.calling.map (·.task)).Nodup := by
  cases hb with
  | called =>
    rw [List.map_append, List.nodup_append]
    refine ⟨hs.calls, by simp, fun x hx y hy heq => ?_⟩
    obtain ⟨c, hc, rfl⟩ := List.mem_map.mp hx
    obtain rfl := List.mem_singleton.mp hy
    exact hs.task_ne_nextHandle hc _ heq
  | registered => exact hs.calls.sublist (List.filter_sublist.map _)
  | same | threadLaunched | futureLaunched | launchFailed | threadBegun | threadEnded | pollBegun | pollPending | pollEnded |
      futureDropped | stateEntered | guardDropped | runtimeEnded => exact hs.calls

/-- There is a number of the tracker left for the act, if it takes one. -/
def HasRoomAt (w : Tracking) (t : Nat) (a : Act) : Prop :=
  a.numbers? = some t → (w.registry t).next.toNat + 1 < UInt64.size

/-- An act for which there is room raises the next number of the tracker from which it takes one. -/
theorem next_lt_becomes (hb : w.Becomes a w') {t : Nat} (hroom : w.HasRoomAt t a) (hn : a.numbers? = some t) :
    (w.registry t).next < (w'.registry t).next := by
  have hnext := next_becomes hb t
  rw [if_pos hn] at hnext
  rw [hnext]
  exact Registry.lt_next_takeNumber (hroom hn)

/-- An act does not lower the next number of a tracker that has room for it. -/
theorem next_le_becomes (hb : w.Becomes a w') {t : Nat} (hroom : w.HasRoomAt t a) :
    (w.registry t).next ≤ (w'.registry t).next := by
  by_cases hn : a.numbers? = some t
  · exact UInt64.le_of_lt (next_lt_becomes hb hroom hn)
  · rw [next_becomes hb t, if_neg hn]
    exact UInt64.le_refl _

/-- One tracker has given the numbers of its tasks and of the calls that have yet to register, and does not list these. -/
structure Fresh (w : Tracking) (t : Nat) : Prop where
  below : (w.registry t).Below
  given : ∀ {c}, c ∈ w.calling → c.task.tracker = t → c.task.task.val < (w.registry t).next
  unlisted : ∀ {c}, c ∈ w.calling → c.task.tracker = t → ¬w.Lists c.task

theorem Sound.fresh (hs : w.Sound) (t : Nat) : w.Fresh t where
  below := hs.below t
  given hc ht := ht ▸ hs.given hc
  unlisted hc _ := hs.unlisted hc

/-- The next number is that of no task that is listed. -/
theorem Fresh.not_lists_nextHandle {t : Nat} (hf : w.Fresh t) : ¬w.Lists (w.nextHandle t) :=
  fun hl => UInt64.lt_irrefl _ (hf.below _ hl)

theorem Sound.not_lists_nextHandle (hs : w.Sound) (t : Nat) : ¬w.Lists (w.nextHandle t) :=
  (hs.fresh t).not_lists_nextHandle

/-- Every act for which a tracker has room keeps its numbers below the next one. -/
theorem Fresh.below_becomes {t : Nat} (hf : w.Fresh t) (hb : w.Becomes a w') (hroom : w.HasRoomAt t a) :
    (w'.registry t).Below := by
  have ht := turns_becomes hb t
  generalize w'.registry t = r at ht
  cases ht with
  | same => exact hf.below
  | number hn => exact hf.below.takeNumber (hroom hn)
  | insert hcall htracker => exact hf.below.insert (hf.given hcall htracker) _ _
  | state => exact hf.below.setState _ _
  | drop keep => exact hf.below.filter keep

/-- Every act for which a tracker has room keeps its numbers as they should be. -/
theorem Fresh.becomes {t : Nat} (hf : w.Fresh t) (hb : w.Becomes a w') (hroom : w.HasRoomAt t a) : w'.Fresh t where
  below := hf.below_becomes hb hroom
  given {c} hc ht := by
    rcases calling_of_becomes hb hc with hc | ⟨u, hn, htask⟩
    · exact UInt64.lt_of_lt_of_le (hf.given hc ht) (next_le_becomes hb hroom)
    · rw [htask] at ht ⊢
      obtain rfl : u = t := ht
      exact next_lt_becomes hb hroom hn
  unlisted {c} hc ht := by
    intro hl
    rcases (lists_becomes hb).mp hl with hregisters | ⟨hl, -⟩
    · exact not_mem_registers hb hc hregisters
    · rcases calling_of_becomes hb hc with hc | ⟨u, -, htask⟩
      · exact hf.unlisted hc ht hl
      · rw [htask] at ht hl
        obtain rfl : u = t := ht
        exact hf.not_lists_nextHandle hl

/-! ## Numbers of futures -/

theorem mem_active {top : Activation} {rest : List Activation} (hactive : (w.thread n).active = top :: rest) :
    top ∈ (w.thread n).active :=
  hactive ▸ List.mem_cons_self

/-- What is being polled on a thread carries its future. -/
theorem carries_of_active {x : Handle} {outer : Option Handle} (hmem : ⟨.poll f, x, outer⟩ ∈ (w.thread n).active) :
    w.Carries f x :=
  Or.inr ⟨n, outer, hmem⟩

/-- When a thread changes, nothing is carried anew if its polls were carried before. -/
theorem carries_setThread {s : ThreadState} {x : Handle}
    (hs : ∀ f x outer, ⟨.poll f, x, outer⟩ ∈ s.active → w.Carries f x) (hc : (w.setThread n s).Carries f x) :
    w.Carries f x := by
  rcases hc with hc | ⟨m, outer, hc⟩
  · exact Or.inl hc
  · by_cases hm : m = n
    · subst hm
      rw [setThread_self] at hc
      exact hs _ _ _ hc
    · rw [setThread_other s hm] at hc
      exact carries_of_active hc

/-- The end of what runs on a thread carries nothing anew. -/
theorem carries_pop {x : Handle} {outer slot : Option Handle} {b : Body} {rest : List Activation}
    (hactive : (w.thread n).active = ⟨b, h, outer⟩ :: rest)
    (hc : (w.setThread n { w.thread n with slot := slot, active := rest }).Carries f x) : w.Carries f x := by
  refine carries_setThread (fun f x outer hmem => ?_) hc
  have hbelow : ⟨.poll f, x, outer⟩ ∈ (w.thread n).active := by
    rw [hactive]
    exact List.mem_cons_of_mem _ hmem
  exact carries_of_active hbelow

/-- Without one future nothing is carried anew. -/
theorem carries_withoutFuture {i : Nat} {x : Handle} (hc : (w.withoutFuture i).Carries f x) : w.Carries f x := by
  rcases hc with hc | hc
  · exact Or.inl (List.mem_filter.mp hc).1
  · exact Or.inr hc

/-- An act makes at most one new future, which is that of a call for an async task and takes the next number. -/
theorem carries_becomes (hb : w.Becomes a w') :
    ((∀ f x, w'.Carries f x → w.Carries f x) ∧ w'.nextFuture = w.nextFuture) ∨
      ∃ c ∈ w.launching, c.spawn = .future ∧
        (∀ f x, w'.Carries f x → w.Carries f x ∨ f = w.nextFuture ∧ x = c.task) ∧ w'.nextFuture = w.nextFuture + 1 := by
  cases hb with
  | same | called | registered | launchFailed | stateEntered | guardDropped => exact Or.inl ⟨fun _ _ hc => hc, rfl⟩
  | @threadLaunched i c =>
    refine Or.inl ⟨fun f x hc => ?_, rfl⟩
    have hc' : (w.setThread w.nextThread { w.thread w.nextThread with waiting := some c.task }).Carries f x := hc
    refine carries_setThread (fun f x outer hmem => ?_) hc'
    exact carries_of_active hmem
  | threadBegun hwaiting =>
    refine Or.inl ⟨fun _ _ hc => carries_setThread (fun f x outer hmem => ?_) hc, rfl⟩
    rcases List.mem_cons.mp hmem with heq | hmem
    · cases heq
    · exact carries_of_active hmem
  | threadEnded hactive | pollEnded hactive => exact Or.inl ⟨fun _ _ hc => carries_pop hactive hc, rfl⟩
  | @futureLaunched i c hlaunching hspawn =>
    refine Or.inr ⟨c, (call_of_find? hlaunching).2, hspawn, fun f x hc => ?_, rfl⟩
    rcases hc with hc | hc
    · rcases List.mem_append.mp hc with hc | hc
      · exact Or.inl (Or.inl hc)
      · cases List.mem_singleton.mp hc
        exact Or.inr ⟨rfl, rfl⟩
    · exact Or.inl (Or.inr hc)
  | @pollBegun n i h hfuture =>
    refine Or.inl ⟨fun f x hc => ?_, rfl⟩
    have hc' : ((w.setThread n { w.thread n with slot := some h, active := ⟨.poll i, h, (w.thread n).slot⟩ ::
        (w.thread n).active }).withoutFuture i).Carries f x := hc
    refine carries_setThread (fun f x outer hmem => ?_) (carries_withoutFuture hc')
    rcases List.mem_cons.mp hmem with heq | hmem
    · cases heq
      exact Or.inl (mem_of_lookup hfuture)
    · exact carries_of_active hmem
  | pollPending hactive =>
    refine Or.inl ⟨fun f x hc => ?_, rfl⟩
    rcases hc with hc | hc
    · rcases List.mem_append.mp hc with hc | hc
      · exact Or.inl hc
      · cases List.mem_singleton.mp hc
        exact carries_of_active (mem_active hactive)
    · exact carries_pop hactive (Or.inr hc)
  | futureDropped => exact Or.inl ⟨fun _ _ hc => carries_withoutFuture hc, rfl⟩
  | runtimeEnded =>
    refine Or.inl ⟨fun f x hc => ?_, rfl⟩
    rcases hc with hc | hc
    · cases hc
    · exact Or.inr hc

/-- Every act keeps the numbers of futures below the next one. -/
theorem Sound.numbered_becomes (hs : w.Sound) (hb : w.Becomes a w') {x : Handle} (hc : w'.Carries f x) :
    f < w'.nextFuture := by
  rcases carries_becomes hb with ⟨hold, hnext⟩ | ⟨c, -, -, hold, hnext⟩
  · rw [hnext]
    exact hs.numbered (hold f x hc)
  · rw [hnext]
    rcases hold f x hc with hc | ⟨rfl, -⟩
    · exact Nat.lt_succ_of_lt (hs.numbered hc)
    · exact Nat.lt_succ_self _

/-- Every act keeps each future that of one task. -/
theorem Sound.carried_becomes (hs : w.Sound) (hb : w.Becomes a w') {x y : Handle} (hx : w'.Carries f x)
    (hy : w'.Carries f y) : x = y := by
  rcases carries_becomes hb with ⟨hold, -⟩ | ⟨c, -, -, hold, -⟩
  · exact hs.carried (hold f x hx) (hold f y hy)
  · rcases hold f x hx with hx | ⟨hf, rfl⟩ <;> rcases hold f y hy with hy | ⟨hf', rfl⟩
    · exact hs.carried hx hy
    · exact absurd (hs.numbered hx) (by omega)
    · exact absurd (hs.numbered hy) (by omega)
    · rfl

/-- A future that is being polled does not wait. -/
theorem Sound.not_mem_keys (hs : w.Sound) {outer : Option Handle} (hmem : ⟨.poll f, h, outer⟩ ∈ (w.thread n).active) :
    f ∉ w.futures.map (·.1) := by
  intro hkey
  obtain ⟨⟨f', x⟩, hx, rfl⟩ := List.mem_map.mp hkey
  have hhx : h = x := hs.carried (carries_of_active hmem) (Or.inl hx)
  subst hhx
  have hthread : h ∈ w.heldBy (.thread n) := List.mem_append_left _ (List.mem_map_of_mem hmem)
  have hruntime : h ∈ w.heldBy .runtime := List.mem_map_of_mem hx
  cases hs.custody.apart hthread hruntime

/-- Every act keeps the numbers of the waiting futures different. -/
theorem Sound.keys_becomes (hs : w.Sound) (hb : w.Becomes a w') : (w'.futures.map (·.1)).Nodup := by
  have happend : ∀ {i : Nat} {x : Handle}, i ∉ w.futures.map (·.1) → ((w.futures ++ [(i, x)]).map (·.1)).Nodup := by
    intro i x hi
    rw [List.map_append, List.nodup_append]
    refine ⟨hs.keys, by simp, fun j hj k hk heq => hi ?_⟩
    simp only [List.map_cons, List.map_nil, List.mem_singleton] at hk
    exact hk ▸ heq ▸ hj
  have hfilter : ∀ i, ((w.withoutFuture i).futures.map (·.1)).Nodup := fun i =>
    hs.keys.sublist (List.filter_sublist.map _)
  cases hb with
  | same | called | registered | threadLaunched | launchFailed | threadBegun | threadEnded | pollEnded | stateEntered |
      guardDropped => exact hs.keys
  | futureLaunched =>
    refine happend fun hkey => ?_
    obtain ⟨⟨i, x⟩, hx, heq⟩ := List.mem_map.mp hkey
    have hlt : i < w.nextFuture := hs.numbered (Or.inl hx)
    simp only at heq
    omega
  | pollBegun | futureDropped => exact hfilter _
  | pollPending hactive => exact happend (hs.not_mem_keys (mem_active hactive))
  | runtimeEnded => exact List.nodup_nil

/-! ## Threads that have not been spawned -/

/-- Every act lets only spawned threads wait. -/
theorem Sound.spawned_becomes (hs : w.Sound) (hb : w.Becomes a w') {m : Nat} (hm : w'.nextThread ≤ m) :
    (w'.thread m).waiting = none := by
  have hset : ∀ {k : Nat} {s : ThreadState}, (m = k → s.waiting = none) → w.nextThread ≤ m →
      ((w.setThread k s).thread m).waiting = none := by
    intro k s hk hle
    by_cases hmk : m = k
    · subst hmk
      rw [setThread_self]
      exact hk rfl
    · rw [setThread_other s hmk]
      exact hs.spawned hle
  cases hb with
  | same | called | registered | futureLaunched | launchFailed | stateEntered | guardDropped | futureDropped | runtimeEnded =>
    exact hs.spawned hm
  | threadLaunched =>
    have hlt : w.nextThread < m := hm
    exact hset (fun heq => absurd heq (Nat.ne_of_gt hlt)) (Nat.le_of_lt hlt)
  | threadBegun => exact hset (fun _ => rfl) hm
  | threadEnded | pollBegun | pollPending | pollEnded => exact hset (fun heq => heq ▸ hs.spawned hm) hm

/-! ## One act -/

/-- Every act for which there is room keeps the invariant. -/
theorem sound_step (hs : w.Sound) (hroom : w.HasRoom a) : (w.step a).1.Sound where
  custody := hs.custody_becomes (becomes_step w a)
  calls := hs.calls_becomes (becomes_step w a)
  given hc := ((hs.fresh _).becomes (becomes_step w a) (hroom _)).given hc rfl
  unlisted hc := ((hs.fresh _).becomes (becomes_step w a) (hroom _)).unlisted hc rfl
  ordered := ordered_becomes (becomes_step w a) hs.ordered
  below t := (hs.fresh t).below_becomes (becomes_step w a) (hroom t)
  keys := hs.keys_becomes (becomes_step w a)
  numbered := hs.numbered_becomes (becomes_step w a)
  carried := hs.carried_becomes (becomes_step w a)
  spawned := hs.spawned_becomes (becomes_step w a)

end Stragglers.Tracking
