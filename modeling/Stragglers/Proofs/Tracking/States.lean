import Stragglers.Proofs.Tracking.Kinds

/-!
# States and guards

The state in which a snapshot shows a task changes when an act writes it, and in no other way. `Writes` lists the acts that
write the state of a task: its registration, the begin and the end of a poll, an entry into a state, and the drop of a guard. A
guard is kept from the entry that gave it until it is dropped, and is that of a task that has been registered.
-/

namespace Stragglers.Tracking

/-- The state in which a snapshot of its tracker shows a task. -/
def shownState? (w : Tracking) (h : Handle) : Option String :=
  match (w.shot h.tracker).outcome with
  | .ok tasks => (tasks.find? fun t => t.id = h.task).map (·.state)
  | .error _ => none

variable {w w' : Tracking} {a : Act} {h x : Handle} {state : String}

/-! ## States of one part -/

theorem shownState?_eq (w : Tracking) (h : Handle) : w.shownState? h = (w.registry h.tracker).state? h.task :=
  (Registry.state?_eq_find?_records _ _).symm

/-- A task is shown in some state if it is listed. -/
theorem isSome_shownState?_iff : (w.shownState? h).isSome ↔ w.Lists h := by
  rw [shownState?_eq]
  exact Registry.isSome_state?_iff

theorem shownState?_takeNumber (w : Tracking) (t : Nat) (h : Handle) : (w.takeNumber t).shownState? h = w.shownState? h := by
  rw [shownState?_eq, shownState?_eq, registry_takeNumber]
  split <;> simp

theorem shownState?_enlist_self (w : Tracking) (c : Call) : (w.enlist c).shownState? c.task = some c.spawn.state := by
  rw [shownState?_eq, registry_enlist, if_pos rfl]
  exact Registry.state?_insert_self _ _ _ _

theorem shownState?_enlist_other {c : Call} (hc : c.task ≠ h) : (w.enlist c).shownState? h = w.shownState? h := by
  rw [shownState?_eq, shownState?_eq, registry_enlist]
  split
  · rename_i ht
    refine Registry.state?_insert_other (fun hid => hc ?_) _ _ _
    obtain ⟨t, id⟩ := h
    exact (congrArg₂ Handle.mk ht hid).symm
  · rfl

theorem shownState?_setState_self (hl : w.Lists h) (state : String) : (w.setState h state).shownState? h = some state := by
  obtain ⟨s, hs⟩ := Option.isSome_iff_exists.mp (isSome_shownState?_iff.mpr hl)
  rw [shownState?_eq] at hs
  rw [shownState?_eq, registry_setState, if_pos rfl, Registry.state?_setState, if_pos rfl, hs]
  rfl

theorem shownState?_setState_other (hx : x ≠ h) (state : String) : (w.setState x state).shownState? h = w.shownState? h := by
  rw [shownState?_eq, shownState?_eq, registry_setState]
  split
  · rename_i ht
    rw [Registry.state?_setState, if_neg]
    intro hid
    obtain ⟨t, id⟩ := h
    exact hx (congrArg₂ Handle.mk ht hid).symm
  · rfl

/-- Taking out other tasks leaves the state of a task as it is. -/
theorem shownState?_foldl_release {hs : List Handle} (hh : h ∉ hs) : (hs.foldl release w).shownState? h = w.shownState? h := by
  rw [shownState?_eq, shownState?_eq, registry_foldl_release]
  exact Registry.state?_filter _ (fun id => decide ((⟨h.tracker, id⟩ : Handle) ∉ hs)) (decide_eq_true hh)

theorem shownState?_release (hx : h ≠ x) : (w.release x).shownState? h = w.shownState? h :=
  have hsingle : h ∉ [x] := fun hmem => hx (List.mem_singleton.mp hmem)
  shownState?_foldl_release hsingle

/-! ## Writing a state -/

/-- The acts that write the state of a task, each with the state that it writes. -/
inductive Writes (w : Tracking) (h : Handle) : Act → String → Prop where
  | registered {c : Call} (hcalling : w.calling.find? (·.task = h) = some c) : Writes w h (.register h) c.spawn.state
  | pollBegun {n f : Nat} (hfuture : w.futures.lookup f = some h) : Writes w h (.beginPoll n f) TaskState.running
  | pollPending {n f : Nat} {outer : Option Handle} {rest : List Activation}
      (hactive : (w.thread n).active = ⟨.poll f, h, outer⟩ :: rest) : Writes w h (.endPoll n true) TaskState.idle
  | entered {n t : Nat} {state : String} {g : Guard} (hguard : w.guardFor? n t = some g) (htask : g.task = h) :
      Writes w h (.enterState n t state) state
  | putBack {i : Nat} {g : Guard} (hguard : w.guards.lookup i = some g) (htask : g.task = h) :
      Writes w h (.dropGuard i) g.previous

/-- A guard is for the listed task in the slot of the thread, and keeps the state in which it is shown. -/
theorem lists_of_guardFor? {n t : Nat} {g : Guard} (hguard : w.guardFor? n t = some g) :
    w.Lists g.task ∧ w.shownState? g.task = some g.previous ∧ (w.thread n).slot = some g.task := by
  rw [guardFor?, current?] at hguard
  cases hslot : (w.thread n).slot with
  | none =>
    rw [hslot] at hguard
    cases hguard
  | some x =>
    obtain ⟨t', id⟩ := x
    rw [hslot] at hguard
    by_cases ht : t' = t
    · subst ht
      simp only [if_true, Option.map_eq_some_iff] at hguard
      obtain ⟨previous, hprevious, rfl⟩ := hguard
      have hshown : w.shownState? ⟨t', id⟩ = some previous := (shownState?_eq w _).trans hprevious
      exact ⟨isSome_shownState?_iff.mp (hshown ▸ rfl), hshown, rfl⟩
    · simp [ht] at hguard

/-- A registration writes the state that the task is spawned in. -/
theorem writes_of_registers (hmem : h ∈ w.registers a) : ∃ c ∈ w.calling, c.task = h ∧ w.Writes h a c.spawn.state := by
  cases a with
  | register x =>
    rw [registers, Option.mem_toList, Option.map_eq_some_iff] at hmem
    obtain ⟨c, hcalling, rfl⟩ := hmem
    obtain ⟨rfl, hc⟩ := call_of_find? hcalling
    exact ⟨c, hc, rfl, .registered hcalling⟩
  | _ => cases hmem

/-- A task that an act registers was not registered before. -/
theorem not_registered_before {acts : List Act} (hfew : Few (acts ++ [a])) (hmem : h ∈ (start.run acts).registers a) :
    h ∉ start.along registers acts :=
  (hfew.takenOnce h).not_registered_twice hmem

/-- A task that is listed after an act that writes its state is shown in that state. -/
theorem Writes.shownState?_step (hw : w.Writes h a state) (hl : (w.step a).1.Lists h) :
    (w.step a).1.shownState? h = some state := by
  cases hw with
  | registered hcalling =>
    obtain ⟨htask, -⟩ := call_of_find? hcalling
    simp only [step, register, hcalling]
    rw [← htask]
    exact shownState?_enlist_self w _
  | pollBegun hfuture =>
    simp only [step, beginPoll, hfuture] at hl ⊢
    exact shownState?_setState_self (w := w.withoutFuture _) (lists_setState.mp hl) _
  | pollPending hactive =>
    simp only [step, endPoll, hactive] at hl ⊢
    exact shownState?_setState_self (lists_setState.mp hl) _
  | entered hguard htask =>
    subst htask
    simp only [step, enterState, hguard] at hl ⊢
    exact shownState?_setState_self (lists_setState.mp hl) _
  | putBack hguard htask =>
    subst htask
    simp only [step, dropGuard, hguard] at hl ⊢
    exact shownState?_setState_self (lists_setState.mp hl) _

/-- A task that an act registers is shown in the state that it was spawned in. -/
theorem shownState?_of_registers {acts : List Act} (hmem : h ∈ (start.run acts).registers a)
    (hl : ((start.run acts).step a).1.Lists h) :
    ∃ spawn, Spawned acts h spawn ∧ ((start.run acts).step a).1.shownState? h = some spawn.state := by
  obtain ⟨c, hc, rfl, hwrites⟩ := writes_of_registers hmem
  exact ⟨c.spawn, (kinds_run acts).calling hc, hwrites.shownState?_step hl⟩

/-- A task that is listed after an act that does not write its state is shown as before. -/
theorem shownState?_becomes (hb : w.Becomes a w') (hl : w'.Lists h) (hno : ∀ state, ¬w.Writes h a state) :
    w'.shownState? h = w.shownState? h := by
  cases hb with
  | same | threadLaunched | futureLaunched | threadBegun => rfl
  | called => exact shownState?_takeNumber w _ h
  | registered hcalling =>
    refine shownState?_enlist_other fun htask => ?_
    obtain ⟨rfl, -⟩ := call_of_find? hcalling
    subst htask
    exact hno _ (.registered hcalling)
  | launchFailed | threadEnded | pollEnded | futureDropped => exact shownState?_release (lists_release.mp hl).1
  | pollBegun hfuture =>
    refine shownState?_setState_other (fun htask => ?_) _
    subst htask
    exact hno _ (.pollBegun hfuture)
  | pollPending hactive =>
    refine shownState?_setState_other (fun htask => ?_) _
    subst htask
    exact hno _ (.pollPending hactive)
  | stateEntered hguard => exact shownState?_setState_other (fun htask => hno _ (.entered hguard htask)) _
  | guardDropped hguard => exact shownState?_setState_other (fun htask => hno _ (.putBack hguard htask)) _
  | runtimeEnded => exact shownState?_foldl_release (lists_foldl_release.mp hl).1

/-! ## Keeping guards -/

/-- An act leaves the guards as they are, gives one more under the next number, or drops one. -/
theorem guards_becomes (hb : w.Becomes a w') :
    (w'.guards = w.guards ∧ w'.nextGuard = w.nextGuard) ∨
    (∃ n t state g, a = .enterState n t state ∧ w.guardFor? n t = some g ∧ w'.guards = (w.nextGuard, g) :: w.guards ∧
      w'.nextGuard = w.nextGuard + 1) ∨
    ∃ i, a = .dropGuard i ∧ w'.guards = w.guards.filter (fun g => g.1 ≠ i) ∧ w'.nextGuard = w.nextGuard := by
  cases hb with
  | @stateEntered n t state g hguard => exact Or.inr (Or.inl ⟨n, t, state, g, rfl, hguard, rfl, rfl⟩)
  | @guardDropped i => exact Or.inr (Or.inr ⟨i, rfl, rfl, rfl⟩)
  | runtimeEnded =>
    rw [foldl_release_eq]
    exact Or.inl ⟨rfl, rfl⟩
  | same | called | registered | threadLaunched | futureLaunched | launchFailed | threadBegun | threadEnded | pollBegun |
      pollPending | pollEnded | futureDropped => exact Or.inl ⟨rfl, rfl⟩

/-- A guard is kept until it is dropped. -/
theorem mem_guards_becomes (hb : w.Becomes a w') {i : Nat} {g : Guard} (hmem : (i, g) ∈ w.guards) (hdrop : a ≠ .dropGuard i) :
    (i, g) ∈ w'.guards := by
  rcases guards_becomes hb with ⟨hguards, -⟩ | ⟨n, t, state, g', -, -, hguards, -⟩ | ⟨j, rfl, hguards, -⟩ <;> rw [hguards]
  · exact hmem
  · exact List.mem_cons_of_mem _ hmem
  · refine List.mem_filter.mpr ⟨hmem, decide_eq_true fun hi => hdrop ?_⟩
    exact congrArg Act.dropGuard hi.symm

/-- A guard that is kept was kept before, or is given now. -/
theorem guard_of_becomes (hb : w.Becomes a w') {i : Nat} {g : Guard} (hmem : (i, g) ∈ w'.guards) :
    (i, g) ∈ w.guards ∨ ∃ n t state, a = .enterState n t state ∧ w.guardFor? n t = some g := by
  rcases guards_becomes hb with ⟨hguards, -⟩ | ⟨n, t, state, g', ha, hguard, hguards, -⟩ | ⟨j, -, hguards, -⟩ <;>
    rw [hguards] at hmem
  · exact Or.inl hmem
  · rcases List.mem_cons.mp hmem with heq | hmem
    · cases heq
      exact Or.inr ⟨n, t, state, ha, hguard⟩
    · exact Or.inl hmem
  · exact Or.inl (List.mem_filter.mp hmem).1

/-- The guards that are kept have different numbers, all of which have been given. -/
structure Numbered (w : Tracking) : Prop where
  keys : (w.guards.map (·.1)).Nodup
  given : ∀ {i g}, (i, g) ∈ w.guards → i < w.nextGuard

/-- Every act keeps the numbers of guards as they should be. -/
theorem Numbered.becomes (hn : w.Numbered) (hb : w.Becomes a w') : w'.Numbered := by
  rcases guards_becomes hb with ⟨hguards, hnext⟩ | ⟨n, t, state, g', -, -, hguards, hnext⟩ | ⟨j, -, hguards, hnext⟩
  · exact ⟨hguards ▸ hn.keys, fun hmem => hnext ▸ hn.given (hguards ▸ hmem)⟩
  · have hnew : w.nextGuard ∉ w.guards.map (·.1) := by
      intro hmem
      obtain ⟨⟨i, g⟩, hg, heq⟩ := List.mem_map.mp hmem
      exact Nat.ne_of_lt (hn.given hg) heq
    refine ⟨?_, fun hmem => ?_⟩
    · rw [hguards]
      exact List.nodup_cons.mpr ⟨hnew, hn.keys⟩
    · rw [hguards] at hmem
      rw [hnext]
      rcases List.mem_cons.mp hmem with heq | hmem
      · cases heq
        exact Nat.lt_succ_self _
      · exact Nat.lt_succ_of_lt (hn.given hmem)
  · refine ⟨?_, fun hmem => ?_⟩
    · rw [hguards]
      exact hn.keys.sublist (List.filter_sublist.map _)
    · rw [hguards] at hmem
      rw [hnext]
      exact hn.given (List.mem_filter.mp hmem).1

theorem numbered_run (acts : List Act) : (start.run acts).Numbered := by
  induction acts using List.reverseRecOn with
  | nil => exact ⟨List.nodup_nil, fun hmem => by cases hmem⟩
  | append_singleton acts a ih =>
    rw [run_concat]
    exact ih.becomes (becomes_step _ a)

/-- A guard is that of a task that has been registered. -/
theorem registered_of_guard {acts : List Act} {i : Nat} {g : Guard} (hmem : (i, g) ∈ (start.run acts).guards) :
    g.task ∈ start.along registers acts := by
  induction acts using List.reverseRecOn with
  | nil => cases hmem
  | append_singleton acts a ih =>
    rw [run_concat] at hmem
    rw [along_concat]
    refine List.mem_append_left _ ?_
    rcases guard_of_becomes (becomes_step _ a) hmem with hold | ⟨n, t, state, -, hguard⟩
    · exact ih hold
    · exact registered_of_lists (lists_of_guardFor? hguard).1

/-- A guard was given when its task was shown in the state that it puts back. -/
theorem guard_given (acts : List Act) {i : Nat} {g : Guard} (hmem : (i, g) ∈ (start.run acts).guards) :
    ∃ w n t state, (w, .enterState n t state) ∈ start.moments acts ∧ w.guardFor? n t = some g ∧
      w.shownState? g.task = some g.previous := by
  induction acts using List.reverseRecOn with
  | nil => cases hmem
  | append_singleton acts a ih =>
    rw [run_concat] at hmem
    rw [moments_concat]
    rcases guard_of_becomes (becomes_step _ a) hmem with hmem | ⟨n, t, state, rfl, hguard⟩
    · obtain ⟨w, n, t, state, hmoment, hgiven⟩ := ih hmem
      exact ⟨w, n, t, state, List.mem_append_left _ hmoment, hgiven⟩
    · refine ⟨start.run acts, n, t, state, List.mem_append_right _ (List.mem_singleton.mpr rfl), hguard, ?_⟩
      exact (lists_of_guardFor? hguard).2.1

/-! ## Dropping guards -/

/-- The guard of a task that is dropped at a moment. -/
def putBack? (h : Handle) : Tracking × Act → Option Guard
  | (w, .dropGuard i) => (w.guards.lookup i).filter (·.task = h)
  | _ => none

/-- The guards of a task that a run drops, one after the other. -/
def dropped (w : Tracking) (h : Handle) (acts : List Act) : List Guard :=
  (w.moments acts).filterMap (putBack? h)

/-- The state that the last of some guards replaced; `base` if there is none. -/
def lastReplaced (base : String) (guards : List Guard) : String :=
  (guards.getLast?.map (·.previous)).getD base

theorem lastReplaced_concat (base : String) (guards : List Guard) (g : Guard) :
    lastReplaced base (guards ++ [g]) = g.previous := by
  simp [lastReplaced]

theorem lastReplaced_eq_base_iff {base : String} {guards : List Guard} :
    lastReplaced base guards = base ↔ ∀ g, guards.getLast? = some g → g.previous = base := by
  rw [lastReplaced]
  cases guards.getLast? with
  | none => simp
  | some g => simp

theorem dropped_append (w : Tracking) (h : Handle) (acts acts' : List Act) :
    w.dropped h (acts ++ acts') = w.dropped h acts ++ (w.run acts).dropped h acts' := by
  rw [dropped, moments_append, List.filterMap_append, dropped, dropped]

theorem dropped_concat (w : Tracking) (h : Handle) (acts : List Act) (a : Act) :
    w.dropped h (acts ++ [a]) = w.dropped h acts ++ (putBack? h (w.run acts, a)).toList := by
  rw [dropped_append, dropped, dropped, moments, moments]
  cases hg : putBack? h (w.run acts, a) with
  | none => simp [hg]
  | some g => simp [hg]

theorem putBack?_eq_some_iff {g : Guard} :
    putBack? h (w, a) = some g ↔ ∃ i, a = .dropGuard i ∧ w.guards.lookup i = some g ∧ g.task = h := by
  cases a with
  | dropGuard i =>
    simp only [putBack?, Option.filter_eq_some_iff, decide_eq_true_eq]
    constructor
    · rintro ⟨hguard, htask⟩
      exact ⟨i, rfl, hguard, htask⟩
    · rintro ⟨j, hj, hguard, htask⟩
      cases hj
      exact ⟨hguard, htask⟩
  | _ => simp [putBack?]

/-- An act that registers a task drops no guard. -/
theorem putBack?_of_registers (hmem : h ∈ w.registers a) : putBack? x (w, a) = none := by
  cases a with
  | register => rfl
  | _ => cases hmem

/-- What writes no state of a task drops no guard of it. -/
theorem putBack?_eq_none (hno : ∀ state, ¬w.Writes h a state) : putBack? h (w, a) = none := by
  cases hg : putBack? h (w, a) with
  | none => rfl
  | some g =>
    obtain ⟨i, rfl, hguard, htask⟩ := putBack?_eq_some_iff.mp hg
    exact absurd (.putBack hguard htask) (hno _)

/-- An act writes the state of a listed task, which shows it then, or it drops no guard of the task, which shows the same as
before. -/
theorem writes_or_same (hl : (w.step a).1.Lists h) :
    (∃ state, w.Writes h a state ∧ (w.step a).1.shownState? h = some state) ∨
      ((∀ state, ¬w.Writes h a state) ∧ putBack? h (w, a) = none ∧ (w.step a).1.shownState? h = w.shownState? h) := by
  by_cases hwrites : ∃ state, w.Writes h a state
  · obtain ⟨state, hwrites⟩ := hwrites
    exact Or.inl ⟨state, hwrites, hwrites.shownState?_step hl⟩
  · have hno : ∀ state, ¬w.Writes h a state := not_exists.mp hwrites
    exact Or.inr ⟨hno, putBack?_eq_none hno, shownState?_becomes (becomes_step w a) hl hno⟩

/-- A guard that a run drops was kept at some moment of the run. -/
theorem mem_guards_of_dropped {acts : List Act} {g : Guard} (hmem : g ∈ w.dropped h acts) :
    g.task = h ∧ ∃ before later i, acts = before ++ later ∧ (i, g) ∈ (w.run before).guards := by
  induction acts using List.reverseRecOn with
  | nil => cases hmem
  | append_singleton acts a ih =>
    rw [dropped_concat] at hmem
    rcases List.mem_append.mp hmem with hmem | hmem
    · obtain ⟨htask, before, later, i, rfl, hkept⟩ := ih hmem
      exact ⟨htask, before, later ++ [a], i, by rw [List.append_assoc], hkept⟩
    · obtain ⟨i, -, hguard, htask⟩ := putBack?_eq_some_iff.mp (Option.mem_toList.mp hmem)
      exact ⟨htask, acts, [a], i, rfl, mem_of_lookup hguard⟩

/-- Of a task that has not been registered no guard is dropped. -/
theorem dropped_eq_nil {acts : List Act} (hnew : h ∉ start.along registers acts) :
    start.dropped h acts = [] := by
  refine List.eq_nil_iff_forall_not_mem.mpr fun g hmem => ?_
  obtain ⟨htask, before, later, i, rfl, hkept⟩ := mem_guards_of_dropped hmem
  have hregistered := registered_of_guard hkept
  refine hnew ?_
  rw [along_append]
  exact List.mem_append_left _ (htask ▸ hregistered)

/-- A guard that is dropped was given when its task was shown in the state that it puts back. -/
theorem dropped_given {acts : List Act} {g : Guard} (hmem : g ∈ start.dropped h acts) :
    ∃ w n t state, (w, .enterState n t state) ∈ start.moments acts ∧ w.guardFor? n t = some g ∧
      w.shownState? h = some g.previous := by
  obtain ⟨rfl, before, later, i, rfl, hkept⟩ := mem_guards_of_dropped hmem
  obtain ⟨w, n, t, state, hmoment, hgiven⟩ := guard_given before hkept
  rw [moments_append]
  exact ⟨w, n, t, state, List.mem_append_left _ hmoment, hgiven⟩

end Stragglers.Tracking
