import Stragglers.Proofs.Tracking.States

/-!
# Async tasks between polls

No thread holds an async task before its first poll and between two polls, so it enters no state then, and only the drop of a
guard that outlives the poll in which it was given can write its state. Before the first poll there is no guard, and the task is
`runnable`. After a poll that leaves it pending it is `idle`, until such a guard is dropped: then it shows what the guard had
replaced, although it is not polled.
-/

namespace Stragglers.Tracking

variable {w w' : Tracking} {a : Act} {h : Handle} {n : Nat}

/-! ## While a task rests -/

/-- No guard of a task that rests is given. -/
theorem Rests.task_ne_of_guardFor? (hr : w.Rests h) (hnested : Nested (w.thread n).slot (w.thread n).active) {t : Nat}
    {g : Guard} (hguard : w.guardFor? n t = some g) : g.task ≠ h := by
  rintro rfl
  obtain ⟨-, -, hslot⟩ := lists_of_guardFor? hguard
  exact hr n (mem_handles_of_slot hnested hslot)

/-- What writes the state of a listed task that rests, and begins no poll of it, drops a guard of it. -/
theorem Rests.putBack?_of_writes (hr : w.Rests h) (hs : w.Sound) (hnested : ∀ n, Nested (w.thread n).slot (w.thread n).active)
    (hl : w.Lists h) (hpoll : ¬w.BeginsPoll h a) {state : String} (hwrites : w.Writes h a state) :
    ∃ g, putBack? h (w, a) = some g ∧ g.previous = state := by
  cases hwrites with
  | registered hcalling =>
    obtain ⟨htask, hc⟩ := call_of_find? hcalling
    exact absurd (htask ▸ hl) (hs.unlisted hc)
  | @pollBegun n f hfuture => exact absurd ⟨n, f, rfl, hfuture⟩ hpoll
  | @pollPending n f outer rest hactive => exact absurd (mem_handles_of_active (mem_active hactive)) (hr n)
  | @entered n t state g hguard htask => exact absurd htask (hr.task_ne_of_guardFor? (hnested n) hguard)
  | @putBack i g hguard htask => exact ⟨g, putBack?_eq_some_iff.mpr ⟨i, rfl, hguard, htask⟩, rfl⟩

/-- What the runtime holds rests. -/
theorem Sound.rests (hs : w.Sound) (hmem : h ∈ w.heldBy .runtime) : w.Rests h := by
  intro n hn
  have hthread : h ∈ w.heldBy (.thread n) := hn
  cases hs.custody.apart hmem hthread

/-- What is known of a task while it rests after `w`: no guard of it is given, and it shows what the last of the guards dropped
since had replaced, or else what it showed in `w`, or else that it can run. -/
structure RestsSince (w w' : Tracking) (h : Handle) (guards : List Guard) : Prop where
  rests : w'.Rests h
  guard : ∀ {i g}, (i, g) ∈ w'.guards → g.task = h → (i, g) ∈ w.guards
  shown : w'.Lists h → w'.shownState? h = some (lastReplaced ((w.shownState? h).getD TaskState.runnable) guards)

/-- A listed task that rests shows what a guard replaced that is dropped now, and the same as before otherwise. -/
theorem RestsSince.shown_step {guards : List Guard} (hr : RestsSince w w' h guards) (hs : w'.Sound)
    (hnested : ∀ n, Nested (w'.thread n).slot (w'.thread n).active) (hl : w'.Lists h) (hl' : (w'.step a).1.Lists h)
    (hpoll : ¬w'.BeginsPoll h a) :
    (w'.step a).1.shownState? h =
      some (lastReplaced ((w.shownState? h).getD TaskState.runnable) (guards ++ (putBack? h (w', a)).toList)) := by
  rcases writes_or_same hl' with ⟨state, hwrites, hshown⟩ | ⟨-, hput, hsame⟩
  · obtain ⟨g, hput, rfl⟩ := hr.rests.putBack?_of_writes hs hnested hl hpoll hwrites
    rw [hput, Option.toList_some, lastReplaced_concat]
    exact hshown
  · rw [hput, Option.toList_none, List.append_nil, hsame]
    exact hr.shown hl

/-- A task that is registered in a run and is no thread shows that it can run; no guard of it was dropped before. -/
theorem shown_of_registers {before later : List Act} (hfew : Few (before ++ later ++ [a]))
    (hasync : ∀ name, ¬Spawned (before ++ later) h (.thread name)) (hnew : h ∈ (start.run (before ++ later)).registers a)
    (hl : ((start.run (before ++ later)).step a).1.Lists h) :
    ((start.run (before ++ later)).step a).1.shownState? h =
      some (lastReplaced (((start.run before).shownState? h).getD TaskState.runnable)
        ((start.run before).dropped h later ++ (putBack? h (start.run (before ++ later), a)).toList)) := by
  have hfew' := hfew.of_append
  have hfresh := not_registered_before hfew hnew
  have hnone := dropped_eq_nil hfresh
  rw [dropped_append, List.append_eq_nil_iff] at hnone
  have hunlisted : (start.run before).shownState? h = none := by
    rw [← Option.not_isSome_iff_eq_none, isSome_shownState?_iff]
    intro hlisted
    have hregistered := (((accounted_run before hfew'.of_append).lists h).mp hlisted).1
    rw [along_append] at hfresh
    exact hfresh (List.mem_append_left _ hregistered)
  obtain ⟨spawn, hspawned, hshown⟩ := shownState?_of_registers hnew hl
  rw [hnone.2, putBack?_of_registers hnew, hunlisted, hshown]
  cases spawn with
  | thread name => exact absurd hspawned (hasync name)
  | future => rfl

/-- A task that rests keeps resting along a run that begins no poll of it. -/
theorem restsSince_run (before later : List Act) (hfew : Few (before ++ later))
    (hasync : ∀ name, ¬Spawned (before ++ later) h (.thread name)) (hr : (start.run before).Rests h)
    (hpoll : ∀ m ∈ (start.run before).moments later, ¬m.1.BeginsPoll h m.2) :
    RestsSince (start.run before) (start.run (before ++ later)) h ((start.run before).dropped h later) := by
  induction later using List.reverseRecOn with
  | nil =>
    rw [List.append_nil]
    refine ⟨hr, fun hmem _ => hmem, fun hl => ?_⟩
    obtain ⟨state, hstate⟩ := Option.isSome_iff_exists.mp (isSome_shownState?_iff.mpr hl)
    rw [hstate]
    rfl
  | append_singleton later a ih =>
    rw [← List.append_assoc] at hfew hasync ⊢
    have hfew' := hfew.of_append
    have hasync' : ∀ name, ¬Spawned (before ++ later) h (.thread name) := fun name hs => hasync name (hs.append [a])
    rw [moments_concat, ← run_append] at hpoll
    have ih := ih hfew' hasync' fun m hm => hpoll m (List.mem_append_left _ hm)
    have hpoll' : ¬(start.run (before ++ later)).BeginsPoll h a :=
      hpoll _ (List.mem_append_right _ (List.mem_singleton.mpr rfl))
    have hb := becomes_step (start.run (before ++ later)) a
    rw [dropped_concat, ← run_append, run_concat]
    refine ⟨ih.rests.becomes hb (fun c hc htask => ?_) hpoll', fun hmem htask => ?_, fun hl => ?_⟩
    · have hspawned := (kinds_run (before ++ later)).launching hc
      rw [htask] at hspawned
      cases hspawn : c.spawn with
      | thread name => exact absurd (hspawn ▸ hspawned) (hasync' name)
      | future => rfl
    · rcases guard_of_becomes hb hmem with hmem | ⟨n, t, state, -, hguard⟩
      · exact ih.guard hmem htask
      · exact absurd htask (ih.rests.task_ne_of_guardFor? (nested_run _ n) hguard)
    · rcases (lists_becomes hb).mp hl with hnew | ⟨hold, -⟩
      · exact shown_of_registers hfew hasync' hnew hl
      · exact ih.shown_step (sound_run _ hfew') (nested_run _) hold hl hpoll'

/-! ## Before the first poll and after a poll -/

/-- The innermost body on the thread is a poll of the task. -/
def Polls (w : Tracking) (n : Nat) (h : Handle) : Prop :=
  ∃ f outer rest, (w.thread n).active = ⟨.poll f, h, outer⟩ :: rest

/-- After a poll that leaves it pending a task rests, and is `idle`. -/
theorem Polls.rests_and_idle (hpolls : w.Polls n h) (hs : (w.step (.endPoll n true)).1.Sound) :
    (w.step (.endPoll n true)).1.Rests h ∧ (w.step (.endPoll n true)).1.shownState? h = some TaskState.idle := by
  obtain ⟨f, outer, rest, hactive⟩ := hpolls
  have hmem : h ∈ (w.step (.endPoll n true)).1.heldBy .runtime := by
    simp only [step, endPoll, hactive, heldBy, if_true, List.map_append]
    exact List.mem_append_right _ (List.mem_singleton.mpr rfl)
  have hl := (hs.custody.listed h).mp ⟨.runtime, hmem⟩
  exact ⟨hs.rests hmem, (Writes.pollPending hactive).shownState?_step hl⟩

/-- If no guard of a task is kept when it begins to rest, none is dropped while it rests. -/
theorem dropped_eq_nil_of_rests (before later : List Act) (hfew : Few (before ++ later))
    (hasync : ∀ name, ¬Spawned (before ++ later) h (.thread name)) (hr : (start.run before).Rests h)
    (hpoll : ∀ m ∈ (start.run before).moments later, ¬m.1.BeginsPoll h m.2)
    (hnone : ∀ i g, (i, g) ∈ (start.run before).guards → g.task ≠ h) : (start.run before).dropped h later = [] := by
  refine List.eq_nil_iff_forall_not_mem.mpr fun g hmem => ?_
  obtain ⟨htask, first, rest, i, rfl, hkept⟩ := mem_guards_of_dropped hmem
  rw [← List.append_assoc] at hfew hasync
  rw [← run_append] at hkept
  have hsince := restsSince_run before first hfew.of_append (fun name hs => hasync name (hs.append rest)) hr fun m hm =>
    hpoll m (by rw [moments_append]; exact List.mem_append_left _ hm)
  exact hnone i g (hsince.guard hkept htask) htask

/-- Take an async task that is listed after a run that does not use up the numbers. Before its first poll a snapshot shows it as
`runnable`. After a poll that left it pending, and until a next one begins, a snapshot shows it in the state that the guard of it
dropped last since then had replaced, and as `idle` if none was dropped; so it is always `idle` if no guard of it outlived the
poll. -/
theorem async_task_shown_between_polls (acts : List Act) (hfew : Few acts) {h : Handle} (hasync : Spawned acts h .future)
    (hl : (start.run acts).Lists h) :
    ((∀ m ∈ start.moments acts, ¬m.1.BeginsPoll h m.2) → (start.run acts).shownState? h = some TaskState.runnable) ∧
    ∀ before n later, acts = before ++ .endPoll n true :: later → (start.run before).Polls n h →
      let w := start.run (before ++ [.endPoll n true])
      (∀ m ∈ w.moments later, ¬m.1.BeginsPoll h m.2) →
        (start.run acts).shownState? h = some (lastReplaced TaskState.idle (w.dropped h later)) ∧
        ((∀ i g, (i, g) ∈ w.guards → g.task ≠ h) → (start.run acts).shownState? h = some TaskState.idle) := by
  have hkind : ∀ name, ¬Spawned acts h (.thread name) := fun name hs => by cases hasync.unique hfew hs
  refine ⟨fun hpoll => ?_, ?_⟩
  · have hr : (start.run []).Rests h := fun n hmem => by cases hmem
    have hnone : start.dropped h acts = [] :=
      dropped_eq_nil_of_rests [] acts hfew hkind hr hpoll fun i g hmem => by cases hmem
    have hshown := (restsSince_run [] acts hfew hkind hr hpoll).shown hl
    rw [show (start.run []).dropped h acts = [] from hnone] at hshown
    exact hshown
  · rintro before n later rfl hpolls w hpoll
    have hsplit : before ++ .endPoll n true :: later = before ++ [.endPoll n true] ++ later := by simp
    rw [hsplit] at hfew hkind hl ⊢
    have hfew' := hfew.of_append
    have hw : w = ((start.run before).step (.endPoll n true)).1 := run_concat _ _ _
    have hs : w.Sound := sound_run _ hfew'
    obtain ⟨hr, hidle⟩ := hpolls.rests_and_idle (hw ▸ hs)
    rw [← hw] at hr hidle
    have hshown := (restsSince_run _ later hfew hkind hr hpoll).shown hl
    rw [hidle] at hshown
    refine ⟨hshown, fun hnone => ?_⟩
    rw [hshown, dropped_eq_nil_of_rests _ later hfew hkind hr hpoll hnone]
    rfl

/-- A job that is spawned and polled once, and enters a state within the poll. -/
def jobRun : List Act :=
  [.call 1 .future "app::job" "src/main.rs:9:5", .register ⟨1, ⟨1⟩⟩, .launch ⟨1, ⟨1⟩⟩ true, .beginPoll 1 0,
    .enterState 1 1 "syscall"]

theorem spawned_job (acts : List Act) : Spawned (jobRun ++ acts) ⟨1, ⟨1⟩⟩ .future :=
  Spawned.append ⟨start, "app::job", "src/main.rs:9:5", List.mem_cons_self, rfl⟩ acts

theorem job_idle_after_leaving_state :
    Few (jobRun ++ [.dropGuard 0, .endPoll 1 true]) ∧ (start.run (jobRun ++ [.dropGuard 0, .endPoll 1 true])).Lists ⟨1, ⟨1⟩⟩ ∧
      (start.run (jobRun ++ [.dropGuard 0])).Polls 1 ⟨1, ⟨1⟩⟩ ∧
      (start.run (jobRun ++ [.dropGuard 0, .endPoll 1 true])).shownState? ⟨1, ⟨1⟩⟩ = some TaskState.idle := by
  have hfew : Few (jobRun ++ [.dropGuard 0, .endPoll 1 true]) := fun t =>
    Nat.lt_of_le_of_lt List.countP_le_length (by decide)
  have hl : (start.run (jobRun ++ [.dropGuard 0, .endPoll 1 true])).Lists ⟨1, ⟨1⟩⟩ := isSome_shownState?_iff.mp rfl
  have hpolls : (start.run (jobRun ++ [.dropGuard 0])).Polls 1 ⟨1, ⟨1⟩⟩ := ⟨0, none, [], rfl⟩
  obtain ⟨-, hafter⟩ := async_task_shown_between_polls _ hfew (spawned_job _) hl
  obtain ⟨-, hidle⟩ := hafter (jobRun ++ [.dropGuard 0]) 1 [] rfl hpolls fun m hm => by cases hm
  exact ⟨hfew, hl, hpolls, hidle fun i g hg => by cases hg⟩

/-- A guard that is dropped after the poll in which it was given makes a task that is not polled `running`. -/
theorem guard_outliving_poll_shows_running :
    Few (jobRun ++ [.endPoll 1 true, .dropGuard 0]) ∧ Spawned (jobRun ++ [.endPoll 1 true, .dropGuard 0]) ⟨1, ⟨1⟩⟩ .future ∧
      (start.run (jobRun ++ [.endPoll 1 true, .dropGuard 0])).Lists ⟨1, ⟨1⟩⟩ ∧ (start.run jobRun).Polls 1 ⟨1, ⟨1⟩⟩ ∧
      (¬(start.run (jobRun ++ [.endPoll 1 true])).BeginsPoll ⟨1, ⟨1⟩⟩ (.dropGuard 0)) ∧
      (start.run (jobRun ++ [.endPoll 1 true, .dropGuard 0])).shownState? ⟨1, ⟨1⟩⟩ = some TaskState.running := by
  refine ⟨fun t => Nat.lt_of_le_of_lt List.countP_le_length (by decide), spawned_job _, isSome_shownState?_iff.mp rfl,
    ⟨0, none, [], rfl⟩, ?_, rfl⟩
  rintro ⟨n, f, hact, -⟩
  cases hact

end Stragglers.Tracking
