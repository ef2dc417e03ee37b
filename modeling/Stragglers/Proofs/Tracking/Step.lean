import Stragglers.Proofs.Registry
import Stragglers.Tracking.Basic

/-!
# What an act does

`Becomes` lists all that an act can make of the trackers, one case for each way in which it can go, and `becomes_step` says that
the list is complete. One registry changes in four ways only (`Turns`): a number is taken, a task is put in under a number that
was taken, its state is replaced, or tasks are taken out.
-/

namespace Stragglers

/-- The tracker whose next number an act takes. -/
def Act.numbers? : Act → Option Nat
  | .call tracker _ _ _ => some tracker
  | _ => none

namespace Tracking

variable {w w' : Tracking}

/-! ## The operations on registries -/

/-- The registry of its tracker has an entry for the task. -/
def Lists (w : Tracking) (h : Handle) : Prop :=
  h.task ∈ (w.registry h.tracker).ids

theorem registry_takeNumber (w : Tracking) (tracker t : Nat) :
    (w.takeNumber tracker).registry t = if t = tracker then (w.registry t).takeNumber.1 else w.registry t := by
  by_cases h : t = tracker
  · subst h
    simp [takeNumber, setRegistry]
  · simp [takeNumber, setRegistry, h]

theorem registry_enlist (w : Tracking) (c : Call) (t : Nat) :
    (w.enlist c).registry t =
      if t = c.task.tracker then (w.registry t).insert c.task.task c.spawn.state c.frames else w.registry t := by
  by_cases h : t = c.task.tracker
  · subst h
    simp [enlist, setRegistry]
  · simp [enlist, setRegistry, h]

theorem registry_release (w : Tracking) (h : Handle) (t : Nat) :
    (w.release h).registry t = if t = h.tracker then (w.registry t).remove h.task else w.registry t := by
  by_cases ht : t = h.tracker
  · subst ht
    simp [release, setRegistry]
  · simp [release, setRegistry, ht]

theorem registry_setState (w : Tracking) (h : Handle) (state : String) (t : Nat) :
    (w.setState h state).registry t = if t = h.tracker then (w.registry t).setState h.task state else w.registry t := by
  by_cases ht : t = h.tracker
  · subst ht
    simp [setState, setRegistry]
  · simp [setState, setRegistry, ht]

/-- Taking a number lists the same tasks. -/
theorem lists_takeNumber {tracker : Nat} {x : Handle} : (w.takeNumber tracker).Lists x ↔ w.Lists x := by
  simp only [Lists, registry_takeNumber]
  split <;> simp

/-- Putting a task in lists one task more. -/
theorem lists_enlist {c : Call} {x : Handle} : (w.enlist c).Lists x ↔ x = c.task ∨ w.Lists x := by
  obtain ⟨t, id⟩ := x
  obtain ⟨⟨t', id'⟩, spawn, frames⟩ := c
  simp only [Lists, registry_enlist, Handle.mk.injEq]
  by_cases ht : t = t'
  · subst ht
    rw [if_pos rfl, Registry.mem_ids_insert]
    simp
  · simp [ht]

/-- Taking a task out lists one task less. -/
theorem lists_release {h x : Handle} : (w.release h).Lists x ↔ x ≠ h ∧ w.Lists x := by
  obtain ⟨t, id⟩ := x
  obtain ⟨t', id'⟩ := h
  simp only [Lists, registry_release, ne_eq, Handle.mk.injEq]
  by_cases ht : t = t'
  · subst ht
    simp [and_comm]
  · simp [ht]

/-- Replacing a state lists the same tasks. -/
theorem lists_setState {h x : Handle} {state : String} : (w.setState h state).Lists x ↔ w.Lists x := by
  simp only [Lists, registry_setState]
  split <;> simp

/-- Taking out several tasks lists all but them. -/
theorem lists_foldl_release {hs : List Handle} {x : Handle} : (hs.foldl release w).Lists x ↔ x ∉ hs ∧ w.Lists x := by
  induction hs generalizing w with
  | nil => simp
  | cons h hs ih =>
    rw [List.foldl_cons, ih, lists_release, List.mem_cons, not_or, and_assoc, and_left_comm]

/-- Taking out several tasks changes nothing but registries. -/
theorem foldl_release_eq (hs : List Handle) (w : Tracking) :
    hs.foldl release w = { w with registry := (hs.foldl release w).registry } := by
  induction hs generalizing w with
  | nil => rfl
  | cons h hs ih =>
    rw [List.foldl_cons, ih]
    rfl

/-- Taking out several tasks filters the entries of each tracker. -/
theorem registry_foldl_release (hs : List Handle) (w : Tracking) (t : Nat) :
    (hs.foldl release w).registry t =
      { w.registry t with entries := (w.registry t).entries.filter fun e => (⟨t, e.1⟩ : Handle) ∉ hs } := by
  induction hs generalizing w with
  | nil =>
    have hall : ((w.registry t).entries.filter fun e => (⟨t, e.1⟩ : Handle) ∉ ([] : List Handle)) =
        (w.registry t).entries := List.filter_eq_self.mpr fun e _ => by simp
    rw [List.foldl_nil, hall]
  | cons h hs ih =>
    rw [List.foldl_cons, ih, registry_release]
    obtain ⟨t', id⟩ := h
    by_cases ht : t = t'
    · subst ht
      simp [Registry.remove, List.filter_filter, Bool.and_comm]
    · simp [ht]

/-- A call that is found is that of the task, and one of those searched. -/
theorem call_of_find? {l : List Call} {h : Handle} {c : Call} (hfind : l.find? (·.task = h) = some c) :
    c.task = h ∧ c ∈ l := by
  refine ⟨?_, List.mem_of_find?_eq_some hfind⟩
  have htask := List.find?_some hfind
  exact of_decide_eq_true htask

/-! ## What an act does to registrations -/

/-- The task for which an act takes a number. -/
def numbers (w : Tracking) (a : Act) : List Handle :=
  (a.numbers?.map w.nextHandle).toList

/-- The task that an act registers. -/
def registers (w : Tracking) : Act → List Handle
  | .register h => ((w.calling.find? (·.task = h)).map (·.task)).toList
  | _ => []

/-- A call that has taken a number registers its task. -/
theorem registers_register {h : Handle} {c : Call} (hcalling : w.calling.find? (·.task = h) = some c) :
    w.registers (.register h) = [c.task] := by
  rw [registers, hcalling]
  rfl

/-- The tasks whose registrations an act drops: when a launch fails, when the body of a thread ends, when a poll is the last one,
and when a future is dropped outside of its polls. -/
def drops (w : Tracking) : Act → List Handle
  | .launch h granted => (((w.launching.find? (·.task = h)).filter fun c => !w.launches c granted).map (·.task)).toList
  | .endThread n =>
    match (w.thread n).active with
    | ⟨.thread, h, _⟩ :: _ => [h]
    | _ => []
  | .endPoll n false =>
    match (w.thread n).active with
    | ⟨.poll _, h, _⟩ :: _ => [h]
    | _ => []
  | .dropFuture f => (w.futures.lookup f).toList
  | .shutdown => w.futures.map (·.2)
  | _ => []

/-- A launch drops the registration exactly if it fails. -/
theorem drops_launch {h : Handle} {c : Call} (hlaunching : w.launching.find? (·.task = h) = some c) (granted : Bool) :
    w.drops (.launch h granted) = if w.launches c granted then [] else [c.task] := by
  rw [drops, hlaunching, Option.filter_some]
  cases w.launches c granted <;> rfl

/-- The end of a body drops the registration of its task. -/
theorem drops_endThread_of_active {n : Nat} {h : Handle} {outer : Option Handle} {rest : List Activation}
    (hactive : (w.thread n).active = ⟨.thread, h, outer⟩ :: rest) : w.drops (.endThread n) = [h] := by
  rw [drops, hactive]

/-- The end of a poll of which nothing is pending drops the registration of its task. -/
theorem drops_endPoll_of_active {n f : Nat} {h : Handle} {outer : Option Handle} {rest : List Activation}
    (hactive : (w.thread n).active = ⟨.poll f, h, outer⟩ :: rest) : w.drops (.endPoll n false) = [h] := by
  rw [drops, hactive]

/-- An async task that is dropped drops its registration. -/
theorem drops_dropFuture {f : Nat} {h : Handle} (hfuture : w.futures.lookup f = some h) : w.drops (.dropFuture f) = [h] := by
  rw [drops, hfuture]
  rfl

/-- The end of a body that is not the innermost drops nothing. -/
theorem drops_endThread {n : Nat} (hother : ∀ h outer rest, (w.thread n).active = ⟨.thread, h, outer⟩ :: rest → False) :
    w.drops (.endThread n) = [] := by
  rw [drops]
  split
  · rename_i hactive
    exact (hother _ _ _ hactive).elim
  · rfl

/-- The end of a poll that is not the innermost drops nothing. -/
theorem drops_endPoll {n : Nat} (hother : ∀ f h outer rest, (w.thread n).active = ⟨.poll f, h, outer⟩ :: rest → False)
    (pending : Bool) : w.drops (.endPoll n pending) = [] := by
  cases pending with
  | true => rfl
  | false =>
    rw [drops]
    split
    · rename_i hactive
      exact (hother _ _ _ _ hactive).elim
    · rfl

/-- What is told of an act: the number that it takes, and the registrations that it drops. -/
theorem notices_step (w : Tracking) (a : Act) :
    (w.step a).2 =
      (match a with
        | .call t spawn entry site => [trackingNotice (w.nextHandle t) (spawnFrames spawn.name? entry site)]
        | _ => []) ++ (w.drops a).map endNotice := by
  cases a with
  | call t spawn entry site => rfl
  | register h =>
    simp only [step, register]
    split <;> rfl
  | launch h granted =>
    simp only [step, launch, drops]
    cases w.launching.find? (·.task = h) with
    | none => rfl
    | some c =>
      simp only [Option.filter_some]
      cases w.launches c granted <;> rfl
  | beginThread n =>
    simp only [step, beginThread]
    split <;> rfl
  | endThread n =>
    simp only [step, endThread]
    split
    · rename_i hactive
      rw [drops_endThread_of_active hactive]
      rfl
    · rename_i hother
      rw [drops_endThread hother]
      rfl
  | beginPoll n f =>
    simp only [step, beginPoll]
    split <;> rfl
  | endPoll n pending =>
    simp only [step, endPoll]
    split
    · rename_i hactive
      cases pending with
      | true => rfl
      | false =>
        rw [drops_endPoll_of_active hactive]
        rfl
    · rename_i hother
      rw [drops_endPoll hother]
      rfl
  | dropFuture f =>
    simp only [step, dropFuture, drops]
    cases w.futures.lookup f <;> rfl
  | enterState n t state =>
    simp only [step, enterState]
    split <;> rfl
  | dropGuard i =>
    simp only [step, dropGuard]
    split <;> rfl
  | shutdown => rfl

/-- An act that leaves registrations alone. -/
structure Idle (w : Tracking) (a : Act) : Prop where
  numbers : a.numbers? = none
  registers : w.registers a = []
  drops : w.drops a = []

/-! ## All that an act can do -/

/-- What an act can make of the trackers. An act that is not possible changes nothing. -/
inductive Becomes (w : Tracking) : Act → Tracking → Prop where
  | same {a : Act} (hidle : w.Idle a) : Becomes w a w
  | called {t : Nat} {spawn : Spawn} {entry site : String} :
      Becomes w (.call t spawn entry site)
        { w.takeNumber t with calling := w.calling ++ [⟨w.nextHandle t, spawn, spawnFrames spawn.name? entry site⟩] }
  | registered {h : Handle} {c : Call} (hcalling : w.calling.find? (·.task = h) = some c) :
      Becomes w (.register h)
        { w.enlist c with calling := w.calling.filter (·.task ≠ h), launching := w.launching ++ [c] }
  | threadLaunched {h : Handle} {c : Call} {name : Option String} (hlaunching : w.launching.find? (·.task = h) = some c)
      (hspawn : c.spawn = .thread name) (hname : nameFailure? name = none) :
      Becomes w (.launch h true)
        { w.setThread w.nextThread { w.thread w.nextThread with waiting := some c.task } with
          launching := w.launching.filter (·.task ≠ h), nextThread := w.nextThread + 1 }
  | futureLaunched {h : Handle} {c : Call} (hlaunching : w.launching.find? (·.task = h) = some c)
      (hspawn : c.spawn = .future) (hruntime : w.hasRuntime) :
      Becomes w (.launch h true)
        { w with
          launching := w.launching.filter (·.task ≠ h), futures := w.futures ++ [(w.nextFuture, c.task)],
          nextFuture := w.nextFuture + 1 }
  | launchFailed {h : Handle} {c : Call} {granted : Bool} (hlaunching : w.launching.find? (·.task = h) = some c)
      (hfails : w.launches c granted = false) :
      Becomes w (.launch h granted) ({ w with launching := w.launching.filter (·.task ≠ h) }.release c.task)
  | threadBegun {n : Nat} {h : Handle} (hwaiting : (w.thread n).waiting = some h) :
      Becomes w (.beginThread n)
        (w.setThread n ⟨some h, ⟨.thread, h, (w.thread n).slot⟩ :: (w.thread n).active, none⟩)
  | threadEnded {n : Nat} {h : Handle} {outer : Option Handle} {rest : List Activation}
      (hactive : (w.thread n).active = ⟨.thread, h, outer⟩ :: rest) :
      Becomes w (.endThread n) ((w.release h).setThread n { w.thread n with slot := outer, active := rest })
  | pollBegun {n f : Nat} {h : Handle} (hfuture : w.futures.lookup f = some h) :
      Becomes w (.beginPoll n f)
        (((w.withoutFuture f).setState h TaskState.running).setThread n
          { w.thread n with slot := some h, active := ⟨.poll f, h, (w.thread n).slot⟩ :: (w.thread n).active })
  | pollPending {n f : Nat} {h : Handle} {outer : Option Handle} {rest : List Activation}
      (hactive : (w.thread n).active = ⟨.poll f, h, outer⟩ :: rest) :
      Becomes w (.endPoll n true)
        { (w.setThread n { w.thread n with slot := outer, active := rest }).setState h TaskState.idle with
          futures := w.futures ++ [(f, h)] }
  | pollEnded {n f : Nat} {h : Handle} {outer : Option Handle} {rest : List Activation}
      (hactive : (w.thread n).active = ⟨.poll f, h, outer⟩ :: rest) :
      Becomes w (.endPoll n false) ((w.setThread n { w.thread n with slot := outer, active := rest }).release h)
  | futureDropped {f : Nat} {h : Handle} (hfuture : w.futures.lookup f = some h) :
      Becomes w (.dropFuture f) ((w.withoutFuture f).release h)
  | stateEntered {n t : Nat} {state : String} {g : Guard} (hguard : w.guardFor? n t = some g) :
      Becomes w (.enterState n t state)
        { w.setState g.task state with guards := (w.nextGuard, g) :: w.guards, nextGuard := w.nextGuard + 1 }
  | guardDropped {i : Nat} {g : Guard} (hguard : w.guards.lookup i = some g) :
      Becomes w (.dropGuard i) ({ w with guards := w.guards.filter fun g => g.1 ≠ i }.setState g.task g.previous)
  | runtimeEnded :
      Becomes w .shutdown
        { w with registry := ((w.futures.map (·.2)).foldl release w).registry, futures := [], hasRuntime := false }

/-- An act makes of the trackers one of the things listed. -/
theorem becomes_step (w : Tracking) (a : Act) : w.Becomes a (w.step a).1 := by
  cases a with
  | call t spawn entry site => exact .called
  | register h =>
    simp only [step, register]
    cases hcalling : w.calling.find? (·.task = h) with
    | none => exact .same ⟨rfl, by rw [registers, hcalling]; rfl, rfl⟩
    | some c => exact .registered hcalling
  | launch h granted =>
    simp only [step, launch]
    cases hlaunching : w.launching.find? (·.task = h) with
    | none => exact .same ⟨rfl, rfl, by rw [drops, hlaunching]; rfl⟩
    | some c =>
      simp only
      by_cases hlaunches : w.launches c granted = true
      · rw [if_pos hlaunches]
        simp only [launches, Bool.and_eq_true] at hlaunches
        obtain ⟨rfl, hlaunches⟩ := hlaunches
        rw [launched]
        split at hlaunches
        · rename_i name hspawn
          exact .threadLaunched hlaunching hspawn (Option.isNone_iff_eq_none.mp hlaunches)
        · rename_i hspawn
          exact .futureLaunched hlaunching hspawn hlaunches
      · rw [if_neg hlaunches]
        exact .launchFailed hlaunching (Bool.eq_false_iff.mpr hlaunches)
  | beginThread n =>
    simp only [step, beginThread]
    cases hwaiting : (w.thread n).waiting with
    | none => exact .same ⟨rfl, rfl, rfl⟩
    | some h => exact .threadBegun hwaiting
  | endThread n =>
    simp only [step, endThread]
    split
    · rename_i hactive
      exact .threadEnded hactive
    · rename_i hother
      exact .same ⟨rfl, rfl, drops_endThread hother⟩
  | beginPoll n f =>
    simp only [step, beginPoll]
    cases hfuture : w.futures.lookup f with
    | none => exact .same ⟨rfl, rfl, rfl⟩
    | some h => exact .pollBegun hfuture
  | endPoll n pending =>
    simp only [step, endPoll]
    split
    · rename_i hactive
      cases pending with
      | true => exact .pollPending hactive
      | false => exact .pollEnded hactive
    · rename_i hother
      exact .same ⟨rfl, by cases pending <;> rfl, drops_endPoll hother pending⟩
  | dropFuture f =>
    simp only [step, dropFuture]
    cases hfuture : w.futures.lookup f with
    | none => exact .same ⟨rfl, rfl, by rw [drops, hfuture]; rfl⟩
    | some h => exact .futureDropped hfuture
  | enterState n t state =>
    simp only [step, enterState]
    cases hguard : w.guardFor? n t with
    | none => exact .same ⟨rfl, rfl, rfl⟩
    | some g => exact .stateEntered hguard
  | dropGuard i =>
    simp only [step, dropGuard]
    cases hguard : w.guards.lookup i with
    | none => exact .same ⟨rfl, rfl, rfl⟩
    | some g => exact .guardDropped hguard
  | shutdown =>
    simp only [step, shutdown]
    rw [foldl_release_eq]
    exact .runtimeEnded

/-! ## What an act lists -/

section lists

variable {a : Act}

/-- A thread that the system grants and whose name it takes is launched. -/
theorem drops_of_threadLaunched {h : Handle} {c : Call} {name : Option String}
    (hlaunching : w.launching.find? (·.task = h) = some c) (hspawn : c.spawn = .thread name)
    (hname : nameFailure? name = none) : w.drops (.launch h true) = [] := by
  simp [drops_launch hlaunching, launches, hspawn, hname]

/-- A future that is handed to a runtime is launched. -/
theorem drops_of_futureLaunched {h : Handle} {c : Call} (hlaunching : w.launching.find? (·.task = h) = some c)
    (hspawn : c.spawn = .future) (hruntime : w.hasRuntime) : w.drops (.launch h true) = [] := by
  simp [drops_launch hlaunching, launches, hspawn, hruntime]

theorem nil_or_iff {p : Prop} {x : Handle} : p ↔ x ∈ ([] : List Handle) ∨ p := by simp

/-- An act drops no registrations and lists those that it registers, or registers nothing and takes out those that it drops. -/
theorem registrations_becomes (hb : w.Becomes a w') :
    (w.drops a = [] ∧ ∀ x, w'.Lists x ↔ x ∈ w.registers a ∨ w.Lists x) ∨
      (w.registers a = [] ∧ w'.registry = ((w.drops a).foldl release w).registry) := by
  cases hb with
  | same hidle => exact Or.inl ⟨hidle.drops, fun x => by rw [hidle.registers]; exact nil_or_iff⟩
  | called => exact Or.inl ⟨rfl, fun x => lists_takeNumber.trans nil_or_iff⟩
  | @registered h c hcalling =>
    exact Or.inl ⟨rfl, fun x => by rw [registers_register hcalling, List.mem_singleton]; exact lists_enlist⟩
  | threadLaunched hlaunching hspawn hname =>
    exact Or.inl ⟨drops_of_threadLaunched hlaunching hspawn hname, fun x => nil_or_iff⟩
  | futureLaunched hlaunching hspawn hruntime =>
    exact Or.inl ⟨drops_of_futureLaunched hlaunching hspawn hruntime, fun x => nil_or_iff⟩
  | threadBegun => exact Or.inl ⟨rfl, fun x => nil_or_iff⟩
  | pollBegun | pollPending | stateEntered | guardDropped => exact Or.inl ⟨rfl, fun x => lists_setState.trans nil_or_iff⟩
  | launchFailed hlaunching hfails => exact Or.inr ⟨rfl, by rw [drops_launch hlaunching, hfails]; rfl⟩
  | threadEnded hactive => exact Or.inr ⟨rfl, by rw [drops_endThread_of_active hactive]; rfl⟩
  | pollEnded hactive => exact Or.inr ⟨rfl, by rw [drops_endPoll_of_active hactive]; rfl⟩
  | futureDropped hfuture => exact Or.inr ⟨rfl, by rw [drops_dropFuture hfuture]; rfl⟩
  | runtimeEnded => exact Or.inr ⟨rfl, rfl⟩

/-- After an act a registry lists what the act registers, and what it listed before except for what the act drops. -/
theorem lists_becomes (hb : w.Becomes a w') {x : Handle} :
    w'.Lists x ↔ x ∈ w.registers a ∨ (w.Lists x ∧ x ∉ w.drops a) := by
  rcases registrations_becomes hb with ⟨hdrops, hlists⟩ | ⟨hregisters, hregistry⟩
  · rw [hdrops, hlists]
    simp
  · have hlists : w'.Lists x ↔ ((w.drops a).foldl release w).Lists x := by rw [Lists, Lists, hregistry]
    rw [hlists, hregisters, lists_foldl_release, and_comm]
    simp

/-- The registries after an act that drops registrations: each tracker's entries but for them. -/
theorem registry_of_drops (hb : w.Becomes a w') (hdrops : w.drops a ≠ []) (t : Nat) :
    w'.registry t =
      { w.registry t with entries := (w.registry t).entries.filter fun e => (⟨t, e.1⟩ : Handle) ∉ w.drops a } := by
  rcases registrations_becomes hb with ⟨hnone, -⟩ | ⟨-, hregistry⟩
  · exact absurd hnone hdrops
  · rw [hregistry, registry_foldl_release]

end lists

/-! ## What an act does to one registry -/

/-- What an act can make of the registry of one tracker. -/
inductive Turns (w : Tracking) (a : Act) (t : Nat) : Registry → Prop where
  | same (hidle : a.numbers? ≠ some t) : Turns w a t (w.registry t)
  | number (hnumbers : a.numbers? = some t) : Turns w a t (w.registry t).takeNumber.1
  | insert {c : Call} (hcall : c ∈ w.calling) (htracker : c.task.tracker = t) (hact : a = .register c.task) :
      Turns w a t ((w.registry t).insert c.task.task c.spawn.state c.frames)
  | state (id : TaskId) (state : String) (hidle : a.numbers? = none) : Turns w a t ((w.registry t).setState id state)
  | drop (keep : TaskId → Bool) (hidle : a.numbers? = none) :
      Turns w a t { w.registry t with entries := (w.registry t).entries.filter fun e => keep e.1 }

section registries

variable {a : Act} {t : Nat}

theorem turns_idle (hidle : a.numbers? = none) : w.Turns a t (w.registry t) :=
  .same fun heq => by rw [hidle] at heq; cases heq

theorem turns_release (hidle : a.numbers? = none) (h : Handle) : w.Turns a t ((w.release h).registry t) := by
  rw [registry_release]
  split
  · exact .drop (· ≠ h.task) hidle
  · exact turns_idle hidle

theorem turns_setState (hidle : a.numbers? = none) (h : Handle) (state : String) :
    w.Turns a t ((w.setState h state).registry t) := by
  rw [registry_setState]
  split
  · exact .state _ _ hidle
  · exact turns_idle hidle

/-- An act changes each registry at most once. -/
theorem turns_becomes (hb : w.Becomes a w') (t : Nat) : w.Turns a t (w'.registry t) := by
  cases hb with
  | same hidle => exact turns_idle hidle.numbers
  | threadLaunched | futureLaunched | threadBegun => exact turns_idle rfl
  | @called t' spawn entry site =>
    have hregistry := registry_takeNumber w t' t
    by_cases ht : t = t'
    · rw [if_pos ht] at hregistry
      exact hregistry ▸ .number (congrArg some ht.symm)
    · rw [if_neg ht] at hregistry
      exact hregistry ▸ .same fun heq => ht (Option.some.inj heq).symm
  | @registered h c hcalling =>
    obtain ⟨htask, hmem⟩ := call_of_find? hcalling
    have hregistry := registry_enlist w c t
    by_cases ht : t = c.task.tracker
    · rw [if_pos ht] at hregistry
      exact hregistry ▸ .insert hmem ht.symm (congrArg Act.register htask.symm)
    · rw [if_neg ht] at hregistry
      exact hregistry ▸ turns_idle rfl
  | launchFailed | threadEnded | pollEnded | futureDropped => exact turns_release rfl _
  | pollBegun | pollPending | stateEntered | guardDropped => exact turns_setState rfl _ _
  | runtimeEnded =>
    have hregistry := registry_foldl_release (w.futures.map (·.2)) w t
    exact hregistry ▸ .drop (fun id => (⟨t, id⟩ : Handle) ∉ w.futures.map (·.2)) rfl

/-- The numbers of a tracker's tasks increase at every moment. -/
theorem ordered_becomes (hb : w.Becomes a w') (hw : ∀ t, (w.registry t).Ordered) (t : Nat) : (w'.registry t).Ordered := by
  have ht := turns_becomes hb t
  generalize w'.registry t = r at ht
  cases ht with
  | same | number => exact hw t
  | insert => exact (hw t).insert _ _ _
  | state => exact (hw t).setState _ _
  | drop keep => exact (hw t).filter keep

/-- The next number of a tracker is what it was, unless the act takes it. -/
theorem next_becomes (hb : w.Becomes a w') (t : Nat) :
    (w'.registry t).next = if a.numbers? = some t then (w.registry t).next + 1 else (w.registry t).next := by
  have ht := turns_becomes hb t
  generalize w'.registry t = r at ht
  cases ht with
  | same hidle => rw [if_neg hidle]
  | number hnumbers => rw [if_pos hnumbers, Registry.next_takeNumber]
  | @insert c _ _ hact =>
    have hidle : a.numbers? ≠ some t := fun heq => by rw [hact] at heq; cases heq
    rw [if_neg hidle, Registry.next_insert]
  | state _ _ hidle => rw [hidle, if_neg (Option.some_ne_none t).symm, Registry.next_setState]
  | drop _ hidle => rw [hidle, if_neg (Option.some_ne_none t).symm]

end registries

end Tracking

end Stragglers
