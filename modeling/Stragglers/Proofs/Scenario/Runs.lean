import Stragglers.Proofs.Notices
import Stragglers.Proofs.Settings
import Stragglers.Proofs.Tracking.Interference
import Stragglers.Proofs.Tracking.SpawnFrames
import Stragglers.Scenario.Polls

/-!
# Scenarios as runs

Whatever a scenario does to the trackers is a run of acts: each command and each poll makes some acts, one after the other, and tells of
tasks what these acts tell (`follows_perform`, `follows_pollJob`). So the trackers are at the end of every scenario those of a run from
the beginning, the notices of tasks are those of the run, and each answer is true of the trackers at some moment of it
(`exists_run_of_play`). What holds after every run thus holds of a scenario (`lists_iff_holds_of_play`) and of what it answers
(`fromSpawns_of_play`, `fromSpawns_of_play_leaked`).
-/

namespace Stragglers

/-! ## Runs and what they tell -/

/-- The task whose end is told. -/
def Notice.ended? : Notice → Option TaskId
  | .finished task => some task
  | _ => none

/-- A task is told to be registered. -/
def Notice.isRegistration : Notice → Bool
  | .tracking _ _ => true
  | _ => false

/-- Only trackers tell of ends. -/
theorem Notice.filterMap_ended?_filter (notices : List Notice) :
    (notices.filter isOfTracker).filterMap ended? = notices.filterMap ended? := by
  rw [List.filterMap_filter]
  congr
  funext n
  cases n <;> rfl

namespace Tracking

variable {w w' w'' : Tracking} {notices more : List Notice}

/-- What an act tells. -/
def tells (w : Tracking) (a : Act) : List Notice :=
  (w.step a).2

/-- All that acts tell is of trackers. -/
theorem filter_tells (w : Tracking) (a : Act) : (w.tells a).filter Notice.isOfTracker = w.tells a := by
  rw [List.filter_eq_self, tells, notices_step, List.forall_mem_append]
  refine ⟨?_, fun n hn => ?_⟩
  · cases a with
    | call => exact List.forall_mem_singleton.mpr rfl
    | register | launch | beginThread | endThread | beginPoll | endPoll | dropFuture | enterState | dropGuard | shutdown =>
      exact fun _ hn => absurd hn List.not_mem_nil
  · obtain ⟨h, -, rfl⟩ := List.mem_map.mp hn
    rfl

/-- The ends that an act tells are those of the registrations that it drops. -/
theorem filterMap_ended?_tells (w : Tracking) (a : Act) : (w.tells a).filterMap Notice.ended? = (w.drops a).map (·.task) := by
  have hends : ((w.drops a).map endNotice).filterMap Notice.ended? = (w.drops a).map (·.task) := by
    rw [List.filterMap_map]
    exact congrFun List.filterMap_eq_map _
  rw [tells, notices_step, List.filterMap_append, hends]
  cases a <;> rfl

/-- The ends that a run tells are those of the registrations that it drops, one after the other. -/
theorem filterMap_ended?_along (w : Tracking) (acts : List Act) :
    (w.along tells acts).filterMap Notice.ended? = (w.along drops acts).map (·.task) := by
  induction acts generalizing w with
  | nil => rfl
  | cons a acts ih => rw [along, along, List.filterMap_append, List.map_append, filterMap_ended?_tells, ih]

/-- An act tells of a registration if it takes a number. -/
theorem countP_tells_eq (w : Tracking) (a : Act) :
    (w.tells a).countP Notice.isRegistration = if a.numbers?.isSome then 1 else 0 := by
  have hends : ((w.drops a).map endNotice).countP Notice.isRegistration = 0 := by
    rw [List.countP_map, List.countP_eq_zero]
    exact fun _ _ => Bool.false_ne_true
  rw [tells, notices_step, List.countP_append, hends]
  cases a <;> rfl

/-- Each number that is taken is told. -/
theorem countP_numbers_le (w : Tracking) (acts : List Act) (t : Nat) :
    acts.countP (·.numbers? = some t) ≤ (w.along tells acts).countP Notice.isRegistration := by
  induction acts generalizing w with
  | nil => exact Nat.le_refl 0
  | cons a acts ih =>
    have hrest := ih (w.step a).1
    rw [List.countP_cons, along, List.countP_append, countP_tells_eq]
    cases a.numbers? with
    | none => simpa using hrest
    | some t' =>
      simp only [Option.isSome_some, if_true]
      split <;> omega

/-- The acts bring the trackers from one state to the other, and the notices tell of tasks what the acts tell. -/
structure Does (w : Tracking) (acts : List Act) (w' : Tracking) (notices : List Notice) : Prop where
  eq_run : w' = w.run acts
  told : notices.filter Notice.isOfTracker = w.along tells acts

/-- Acts behind others tell what they tell behind them. -/
theorem Does.trans {acts acts' : List Act} (h : w.Does acts w' notices) (h' : w'.Does acts' w'' more) :
    w.Does (acts ++ acts') w'' (notices ++ more) where
  eq_run := by rw [run_append, ← h.eq_run, h'.eq_run]
  told := by rw [List.filter_append, along_append, h.told, h'.told, h.eq_run]

/-- Some acts bring the trackers from one state to the other, and the notices tell of tasks what the acts tell. -/
def Goes (w w' : Tracking) (notices : List Notice) : Prop :=
  ∃ acts, w.Does acts w' notices

/-- The trackers rest as they are if nothing of them is told. -/
theorem goes_rest (h : notices.filter Notice.isOfTracker = []) : w.Goes w notices :=
  ⟨[], rfl, h⟩

theorem goes_step (w : Tracking) (a : Act) : w.Goes (w.step a).1 (w.step a).2 :=
  ⟨[a], rfl, (filter_tells w a).trans (List.append_nil _).symm⟩

theorem Goes.trans (h : w.Goes w' notices) (h' : w'.Goes w'' more) : w.Goes w'' (notices ++ more) := by
  obtain ⟨acts, h⟩ := h
  obtain ⟨acts', h'⟩ := h'
  exact ⟨acts ++ acts', h.trans h'⟩

end Tracking

open Tracking (goes_rest goes_step)

/-! ## What is answered -/

/-- What the answer says is so of trackers in this state. -/
def Answer.TrueOf (w : Tracking) : Answer → Prop
  | .records tasks | .states tasks => ∃ t, tasks = (w.registry t).records
  | .size n => ∃ t, n = (w.registry t).size
  | .current task => ∃ thread t, task = w.current? thread t
  | .found (.ok result) => ∃ thread t settings, result = (find (w.source thread t) settings).value
  | .done | .same | .panicked _ | .whether _ | .queued _ | .error _ | .found (.error _) | .joined _ | .unknown => True

/-- What was done to a scenario, the answers, and what was told. -/
structure Played where
  scenario : Scenario
  answers : List Answer
  notices : List Notice

namespace Played

/-- One after the other. -/
def andThen (p q : Played) : Played :=
  ⟨q.scenario, p.answers ++ q.answers, p.notices ++ q.notices⟩

/-- What was done to the scenario did a run to its trackers, and each answer is true of the trackers at some moment of this run. -/
def Follows (p : Played) (s : Scenario) : Prop :=
  ∃ acts, s.world.Does acts p.scenario.world p.notices ∧
    ∀ a ∈ p.answers, ∃ before, before <+: acts ∧ a.TrueOf (s.world.run before)

variable {s : Scenario} {p q : Played}

/-- What goes without an answer only needs a run. -/
theorem follows_of_goes {s' : Scenario} {notices : List Notice} (h : s.world.Goes s'.world notices) :
    (⟨s', [], notices⟩ : Played).Follows s := by
  obtain ⟨acts, h⟩ := h
  exact ⟨acts, h, fun _ ha => absurd ha List.not_mem_nil⟩

theorem follows_rest {s' : Scenario} (h : s'.world = s.world) : (⟨s', [], []⟩ : Played).Follows s :=
  follows_of_goes (h ▸ goes_rest rfl)

/-- Only the trackers of the scenarios matter. -/
theorem Follows.of_world {before after : Scenario} (hp : p.Follows before) (hbefore : before.world = s.world)
    (hafter : after.world = p.scenario.world) : (⟨after, p.answers, p.notices⟩ : Played).Follows s := by
  obtain ⟨acts, hdoes, hanswers⟩ := hp
  exact ⟨acts, hafter ▸ hbefore ▸ hdoes, hbefore ▸ hanswers⟩

theorem Follows.andThen (hp : p.Follows s) (hq : q.Follows p.scenario) : (p.andThen q).Follows s := by
  obtain ⟨acts, hdoes, hanswers⟩ := hp
  obtain ⟨acts', hdoes', hanswers'⟩ := hq
  refine ⟨acts ++ acts', hdoes.trans hdoes', List.forall_mem_append.mpr ⟨fun a ha => ?_, fun a ha => ?_⟩⟩
  · obtain ⟨before, hbefore, htrue⟩ := hanswers a ha
    exact ⟨before, hbefore.trans (List.prefix_append acts acts'), htrue⟩
  · obtain ⟨before, hbefore, htrue⟩ := hanswers' a ha
    rw [hdoes.eq_run, ← Tracking.run_append] at htrue
    exact ⟨acts ++ before, (List.prefix_append_right_inj acts).mpr hbefore, htrue⟩

end Played

/-! ## Commands -/

namespace Scenario

variable {s s' : Scenario}

/-- An act in a scenario is one of its trackers. -/
theorem goes_act (s : Scenario) (a : Act) : s.world.Goes (s.act a).1.world (s.act a).2 :=
  goes_step s.world a

/-- Acts in a scenario are a run of its trackers. -/
theorem goes_acts (s : Scenario) (acts : List Act) : s.world.Goes (s.acts acts).1.world (s.acts acts).2 := by
  induction acts generalizing s with
  | nil => exact goes_rest rfl
  | cons a acts ih => exact (goes_act s a).trans (ih (s.act a).1)

/-- The command did a run to the trackers, and its answer is true of them as they were before it. -/
structure Performed.Follows (p : Performed) (s : Scenario) : Prop where
  goes : s.world.Goes p.scenario.world p.notices
  answer : p.answer.TrueOf s.world

/-- A command that only answers follows if it leaves the trackers as they are and its answer is true. -/
theorem follows_answering (h : s'.world = s.world) {a : Answer} (ha : a.TrueOf s.world) : (s'.answering a).Follows s where
  goes := h ▸ goes_rest rfl
  answer := ha

/-- A thread that is spawned begins at once, unless its name cannot be given to a thread. -/
theorem follows_spawnThread (s : Scenario) (tracker : Nat) (job : String) (threadName : Option String) (entry site : String) :
    (s.spawnThread tracker job threadName entry site).Follows s := by
  have hspawn : s.world.Goes (s.spawn tracker (.thread threadName) entry site).1.world
    (s.spawn tracker (.thread threadName) entry site).2 := goes_acts s _
  unfold spawnThread
  cases Tracking.nameFailure? threadName with
  | some failure => exact ⟨hspawn, trivial⟩
  | none =>
    exact ⟨hspawn.trans (goes_act (s.spawn tracker (.thread threadName) entry site).1 (.beginThread s.world.nextThread)), trivial⟩

theorem follows_spawnTask (s : Scenario) (tracker : Nat) (job entry site : String) :
    (s.spawnTask tracker job entry site).Follows s := by
  have hspawn : s.world.Goes (s.spawn tracker .future entry site).1.world (s.spawn tracker .future entry site).2 :=
    goes_acts s _
  unfold spawnTask
  simp only
  split <;> exact ⟨hspawn, trivial⟩

theorem follows_dropGuard (s : Scenario) (guard : String) : (s.dropGuard guard).Follows s := by
  unfold dropGuard
  cases s.guards.lookup guard with
  | some g => exact ⟨goes_act s (.dropGuard g), trivial⟩
  | none => exact ⟨goes_rest rfl, trivial⟩

/-- Entering a state drops the guard that its name had before. -/
theorem follows_enterState (s : Scenario) (thread tracker : Nat) (state guard : String) :
    (s.enterState thread tracker state guard).Follows s := by
  unfold enterState
  cases s.world.guardFor? thread tracker with
  | some g =>
    exact ⟨(goes_act s (.enterState thread tracker state)).trans
      (follows_dropGuard (s.act (.enterState thread tracker state)).1 guard).goes, trivial⟩
  | none => exact ⟨goes_rest rfl, trivial⟩

theorem follows_captureBaseline (s : Scenario) (tracker : Nat) (name : String) : (s.captureBaseline tracker name).Follows s := by
  have hquiet : (Setting.ignoreCurrent (s.world.shot tracker)).Quiet :=
    quiet_ignoreCurrent fun _ hn => absurd hn List.not_mem_nil
  unfold captureBaseline
  simp only
  split <;> exact ⟨goes_rest hquiet.filter_notices, trivial⟩

/-- A tracker gives no notice when it answers. -/
theorem quiet_source (w : Tracking) (thread tracker : Nat) : (w.source thread tracker).Quiet :=
  fun _ _ hn => absurd hn List.not_mem_nil

/-- A check is one of the tracker as it is, whatever baselines its settings have taken. -/
theorem follows_findOn (s : Scenario) (thread tracker : Nat) (wanted : List Wanted) : (s.findOn thread tracker wanted).Follows s := by
  unfold findOn
  cases s.requests? wanted with
  | none => exact ⟨goes_rest rfl, trivial⟩
  | some requests =>
    have hquiet := (quiet_settings (quiet_source s.world thread tracker) requests).filter_notices
    simp only
    split
    · rename_i settings source hmade
      -- the snapshots for the settings have left the source as it was
      obtain rfl : source = s.world.source thread tracker := Request.source_of_settings_steady hmade
      have hfound := (quiet_find (quiet_source s.world thread tracker) settings).filter_notices
      exact ⟨goes_rest (by rw [List.filter_append, hquiet, hfound, List.append_nil]), thread, tracker, settings, rfl⟩
    · exact ⟨goes_rest hquiet, trivial⟩

/-- An order that waits in a queue has done nothing to the trackers. -/
theorem world_enqueue (s : Scenario) (name : String) (order : Order) : (s.enqueue name order).1.world = s.world := by
  unfold enqueue
  split <;> rfl

theorem trueOf_enqueue (s : Scenario) (name : String) (order : Order) (w : Tracking) : (s.enqueue name order).2.TrueOf w := by
  unfold enqueue
  split <;> trivial

/-- A thread ends at once, and a job when it is polled. -/
theorem follows_endNamed (s : Scenario) (name : String) (how : JobEnd) (order : Order) : (s.endNamed name how order).Follows s := by
  unfold endNamed
  cases s.threads.lookup name with
  | some thread => exact ⟨goes_act s (.endThread thread), trivial⟩
  | none => exact follows_answering (world_enqueue s name order) (trueOf_enqueue s name order s.world)

theorem follows_abort (s : Scenario) (name : String) : (s.abort name).Follows s := by
  unfold abort
  split <;> exact ⟨goes_rest rfl, trivial⟩

theorem follows_joinTask (s : Scenario) (name : String) : (s.joinTask name).Follows s := by
  unfold joinTask
  split
  · exact ⟨goes_rest rfl, trivial⟩
  · split
    · exact ⟨goes_rest rfl, trivial⟩
    · split <;> exact ⟨goes_rest rfl, trivial⟩

theorem follows_shutdown (s : Scenario) : s.shutdown.Follows s := by
  unfold shutdown
  split
  · exact ⟨goes_act s .shutdown, trivial⟩
  · exact ⟨goes_rest rfl, trivial⟩

/-- A command about a tracker that is not known only says so. -/
theorem follows_onTracker {f : Nat → Performed} (hf : ∀ t, (f t).Follows s) (name : String) : (s.onTracker name f).Follows s := by
  unfold onTracker
  cases s.trackers.lookup name with
  | some t => exact hf t
  | none => exact ⟨goes_rest rfl, trivial⟩

/-- Each command does a run to the trackers, and its answer is true of them. -/
theorem follows_perform (s : Scenario) (thread : Nat) (c : Command) : (s.perform thread c).Follows s := by
  cases c with
  | newTracker | sharedTracker => exact ⟨goes_rest rfl, trivial⟩
  | cloneTracker =>
    refine follows_onTracker (fun _ => ?_) _
    exact ⟨goes_rest rfl, trivial⟩
  | spawnThread => exact follows_onTracker (fun t => follows_spawnThread s t _ _ _ _) _
  | spawnTask => exact follows_onTracker (fun t => follows_spawnTask s t _ _ _) _
  | snapshot | states | size =>
    refine follows_onTracker (fun t => ?_) _
    exact ⟨goes_rest rfl, t, rfl⟩
  | current =>
    refine follows_onTracker (fun t => ?_) _
    exact ⟨goes_rest rfl, thread, t, rfl⟩
  | enterState => exact follows_onTracker (fun t => follows_enterState s thread t _ _) _
  | dropGuard => exact follows_dropGuard s _
  | baseline => exact follows_onTracker (fun t => follows_captureBaseline s t _) _
  | find => exact follows_onTracker (fun t => follows_findOn s thread t _) _
  | finish | panic => exact follows_endNamed s _ _ _
  | abort => exact follows_abort s _
  | joinTask => exact follows_joinTask s _
  | shutdown => exact follows_shutdown s

/-- What a command did, with its one answer. -/
def Performed.played (p : Performed) : Played :=
  ⟨p.scenario, [p.answer], p.notices⟩

theorem Performed.Follows.played {p : Performed} (h : p.Follows s) : p.played.Follows s := by
  obtain ⟨acts, hdoes⟩ := h.goes
  exact ⟨acts, hdoes, List.forall_mem_singleton.mpr ⟨[], List.nil_prefix, h.answer⟩⟩

/-- A command does a run to the trackers, or waits in the queue of a job. -/
theorem follows_command (s : Scenario) (on : Option String) (c : Command) : (s.command on c).Follows s := by
  unfold command
  split
  · exact follows_perform s _ c
  · exact follows_answering (world_enqueue s _ _) (trueOf_enqueue s _ _ s.world)
  · exact ⟨goes_rest rfl, trivial⟩

/-! ## Polls -/

/-- What polls did, with the answers of the commands that they ran. -/
def Polled.played (p : Polled) : Played :=
  ⟨p.scenario, p.answers.map (·.2), p.notices⟩

/-- The orders of a job do a run to the trackers, one order after the other. -/
theorem follows_runQueue (s : Scenario) (thread : Nat) (name : String) (orders : List Order) :
    (s.runQueue thread name orders).1.played.Follows s := by
  induction orders generalizing s with
  | nil => exact Played.follows_rest rfl
  | cons order orders ih =>
    cases order with
    | run c => exact (follows_perform s thread c).played.andThen (ih (s.perform thread c).scenario)
    | finish | panic => exact Played.follows_rest rfl

/-- The end of a job is noted behind what ended it. -/
theorem world_endJob (s : Scenario) (name : String) (how : JobEnd) : (s.endJob name how).world = s.world := by
  unfold endJob
  split <;> rfl

/-- A poll begins, runs the orders of the job, and ends. -/
theorem follows_poll (s : Scenario) (thread future : Nat) (name : String) (orders : List Order) :
    let begun := s.act (.beginPoll thread future)
    let ran := begun.1.runQueue thread name orders
    let ended := ran.1.scenario.act (.endPoll thread ran.2.isNone)
    (⟨ended.1, ran.1.played.answers, begun.2 ++ ran.1.notices ++ ended.2⟩ : Played).Follows s := by
  intro begun ran ended
  have hbegun := Played.follows_of_goes (goes_act s (.beginPoll thread future))
  have hran := follows_runQueue begun.1 thread name orders
  have hended := Played.follows_of_goes (goes_act ran.1.scenario (.endPoll thread ran.2.isNone))
  have hall := (hbegun.andThen hran).andThen hended
  rwa [Played.andThen, Played.andThen, List.append_nil] at hall

/-- A job that is scheduled does a run to the trackers when its turn comes. -/
theorem follows_pollJob (s : Scenario) (thread : Nat) (name : String) : (s.pollJob thread name).played.Follows s := by
  unfold pollJob
  simp only
  split
  · exact Played.follows_rest rfl
  · rename_i job _
    split
    · exact (Played.follows_of_goes (goes_act _ (.dropFuture job.future))).of_world rfl (world_endJob _ _ _)
    · refine (follows_poll _ thread job.future name job.queue).of_world rfl ?_
      split
      · exact world_endJob _ _ _
      · rfl

/-- Jobs that are polled one after the other do a run to the trackers. -/
theorem follows_pollAll (s : Scenario) (thread : Nat) (names : List String) : (s.pollAll thread names).played.Follows s := by
  induction names generalizing s with
  | nil => exact Played.follows_rest rfl
  | cons name names ih =>
    have hboth := (follows_pollJob s thread name).andThen (ih (s.pollJob thread name).scenario)
    rwa [Played.andThen, Polled.played, Polled.played, ← List.map_append] at hboth

/-- A tick does a run to the trackers. -/
theorem follows_tick (s : Scenario) (thread : Nat) : (s.tick thread).played.Follows s := by
  have hboth := (follows_pollAll s thread s.scheduled).andThen
    (follows_pollAll (s.pollAll thread s.scheduled).scenario thread (s.pollAll thread s.scheduled).scenario.scheduled)
  rwa [Played.andThen, Polled.played, Polled.played, ← List.map_append] at hboth

/-! ## Steps -/

/-- One step of a scenario: a command, or a tick on the thread of this name or the one that the scenario begins on. -/
inductive Step where
  | command (on : Option String) (c : Command)
  | tick (on : Option String)

/-- What a step did. -/
def take (s : Scenario) : Step → Played
  | .command on c => (s.command on c).played
  | .tick on =>
    match s.thread? on with
    | some thread => (s.tick thread).played
    | none => ⟨s, [], []⟩

/-- What steps did, one after the other. -/
def play (s : Scenario) : List Step → Played
  | [] => ⟨s, [], []⟩
  | step :: steps => (s.take step).andThen ((s.take step).scenario.play steps)

theorem follows_take (s : Scenario) (step : Step) : (s.take step).Follows s := by
  cases step with
  | command on c => exact (follows_command s on c).played
  | tick on =>
    simp only [take]
    split
    · exact follows_tick s _
    · exact Played.follows_rest rfl

/-- Steps do a run to the trackers, one step after the other. -/
theorem follows_play (s : Scenario) (steps : List Step) : (s.play steps).Follows s := by
  induction steps generalizing s with
  | nil => exact Played.follows_rest rfl
  | cons step steps ih => exact (follows_take s step).andThen (ih (s.take step).scenario)

/-- The records are in the order of their numbers, and each has the frames of a spawn. -/
structure FromSpawns (tasks : List TaskRecord) : Prop where
  ordered : tasks.Pairwise fun x y => x.id.val < y.id.val
  frames : ∀ r ∈ tasks, ∃ (spawn : Spawn) (entry site : String),
    r.topFunction = spawn.name?.getD entry ∧ r.frames = spawnFrames spawn.name? entry site

theorem FromSpawns.sublist {tasks fewer : List TaskRecord} (h : FromSpawns tasks) (hfewer : fewer.Sublist tasks) :
    FromSpawns fewer where
  ordered := h.ordered.sublist hfewer
  frames r hr := h.frames r (hfewer.subset hr)

/-- The records of a tracker after a run are those of spawns, in their order. -/
theorem fromSpawns_records (acts : List Act) (t : Nat) : FromSpawns ((Tracking.start.run acts).registry t).records where
  ordered := Registry.pairwise_records (Tracking.ordered_run acts t)
  frames r hr := by
    obtain ⟨spawn, entry, site, -, hframes⟩ := Tracking.exists_call_of_mem_records hr
    exact ⟨spawn, entry, site, hframes⟩

/-- Whatever steps a scenario takes, its trackers are those of a run from the beginning. The notices tell of tasks what the acts of
the run tell, so the ends that were told are those of the registrations that were dropped. As long as fewer registrations were told
than there are numbers, the numbers of no tracker are used up. Each answer is true of the trackers at some moment of the run. -/
theorem exists_run_of_play (name : String) (steps : List Step) :
    let p := (start name).play steps
    ∃ acts, p.scenario.world = Tracking.start.run acts ∧
      p.notices.filter Notice.isOfTracker = Tracking.start.along Tracking.tells acts ∧
      p.notices.filterMap Notice.ended? = (Tracking.start.along Tracking.drops acts).map (·.task) ∧
      (p.notices.countP Notice.isRegistration < UInt64.size - 1 → Tracking.Few acts) ∧
      ∀ a ∈ p.answers, ∃ before, before <+: acts ∧ a.TrueOf (Tracking.start.run before) := by
  intro p
  obtain ⟨acts, hdoes, hanswers⟩ := follows_play (start name) steps
  refine ⟨acts, hdoes.eq_run, hdoes.told, ?_, fun hfew t => ?_, hanswers⟩
  · rw [← Notice.filterMap_ended?_filter, hdoes.told, Tracking.filterMap_ended?_along]
    rfl
  · have htold : (Tracking.start.along Tracking.tells acts).countP Notice.isRegistration ≤ p.notices.countP Notice.isRegistration :=
      hdoes.told ▸ List.filter_sublist.countP_le
    exact Nat.lt_of_le_of_lt (Nat.le_trans (Tracking.countP_numbers_le _ acts t) htold) hfew

/-- As long as fewer registrations were told than there are numbers, the trackers of a scenario list the tasks whose registrations
something holds: a call, a thread, a poll or the runtime. -/
theorem lists_iff_holds_of_play {name : String} {steps : List Step}
    (hfew : ((start name).play steps).notices.countP Notice.isRegistration < UInt64.size - 1) (h : Handle) :
    ((start name).play steps).scenario.world.Lists h ↔ ((start name).play steps).scenario.world.Holds h := by
  obtain ⟨acts, hrun, -, -, hnumbers, -⟩ := exists_run_of_play name steps
  rw [hrun]
  exact ((Tracking.sound_run acts (hnumbers hfew)).custody.listed h).symm

/-- A snapshot that a scenario answers is one of a tracker after a run, so its tasks are spawned ones in their order. -/
theorem fromSpawns_of_play {name : String} {steps : List Step} {tasks : List TaskRecord}
    (h : .records tasks ∈ ((start name).play steps).answers ∨ .states tasks ∈ ((start name).play steps).answers) :
    FromSpawns tasks := by
  obtain ⟨acts, -, -, -, -, hanswers⟩ := exists_run_of_play name steps
  obtain ⟨before, t, rfl⟩ : ∃ before t, tasks = ((Tracking.start.run before).registry t).records := by
    rcases h with h | h
    all_goals
      obtain ⟨before, -, t, htasks⟩ := hanswers _ h
      exact ⟨before, t, htasks⟩
  exact fromSpawns_records before t

/-- The report of a check in a scenario has spawned tasks in their order, at least one, and not the one that checked. -/
theorem fromSpawns_of_play_leaked {name : String} {steps : List Step} {r : Report}
    (h : .found (.ok (.error (.leaked r))) ∈ ((start name).play steps).answers) :
    r.tasks ≠ [] ∧ FromSpawns r.tasks ∧ ∃ acts thread t, r.tasks.Sublist ((Tracking.start.run acts).registry t).records ∧
      ∀ task ∈ r.tasks, (Tracking.start.run acts).current? thread t ≠ some task.id := by
  obtain ⟨acts, -, -, -, -, hanswers⟩ := exists_run_of_play name steps
  obtain ⟨before, -, thread, t, settings, hfound⟩ := hanswers _ h
  obtain ⟨hne, -, index, tasks, houtcome, hsublist, hcurrent⟩ := exists_shot_of_find_leaked hfound.symm
  obtain rfl : ((Tracking.start.run before).registry t).records = tasks := Except.ok.inj houtcome
  exact ⟨hne, (fromSpawns_records before t).sublist hsublist, before, thread, t, hsublist, hcurrent⟩

end Scenario

end Stragglers
