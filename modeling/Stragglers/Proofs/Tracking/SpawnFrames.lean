import Stragglers.Proofs.Tracking.Isolation

/-!
# What the frames of a spawn tell

A name without its closure suffixes is the one part of it that ends in no suffix and has only suffixes behind it
(`withoutClosures_eq_iff`), and taking them away ends after as many rounds as there are of them (`exists_rounds`). So the function
that spawned a task can be told from its entry in one way, and the frames show it, with the place of the spawn, just above the exit
of all tasks. A record of a tracker has the frames of a call on this tracker (`frames_tell_entry_spawner_and_site`).
-/

namespace Stragglers

/-! ## Names of closures -/

/-- The name of a closure that is written so many closures deep in a function. -/
def closureIn (function : List Char) : (depth : Nat) → List Char
  | 0 => function
  | depth + 1 => closureIn function depth ++ closureSuffix

variable {name function function' : List Char} {depth : Nat}

theorem closureIn_add (function : List Char) (m n : Nat) : closureIn function (m + n) = closureIn (closureIn function m) n := by
  induction n with
  | zero => rfl
  | succ n ih => rw [← Nat.add_assoc, closureIn, closureIn, ih]

theorem length_closureIn (function : List Char) (depth : Nat) :
    (closureIn function depth).length = function.length + depth * closureSuffix.length := by
  induction depth with
  | zero => rw [closureIn, Nat.zero_mul, Nat.add_zero]
  | succ depth ih => rw [closureIn, List.length_append, ih, Nat.succ_mul, Nat.add_assoc]

theorem length_closureSuffix_pos : 0 < closureSuffix.length := by decide

/-- A function and a closure in it have different names. -/
theorem closureIn_eq_self_iff : closureIn function depth = function ↔ depth = 0 := by
  constructor
  · intro h
    have hlength := congrArg List.length h
    rw [length_closureIn] at hlength
    have hnone : depth * closureSuffix.length = 0 := by omega
    exact (Nat.mul_eq_zero.mp hnone).resolve_right (Nat.ne_of_gt length_closureSuffix_pos)
  · rintro rfl
    rfl

/-! ## Taking the suffixes away -/

/-- One round takes one suffix away. -/
theorem withoutClosures_append (name : List Char) : withoutClosures (name ++ closureSuffix) = withoutClosures name := by
  have hends : closureSuffix.isSuffixOf (name ++ closureSuffix) = true :=
    List.isSuffixOf_iff_suffix.mpr (List.suffix_append _ _)
  rw [withoutClosures, if_pos hends, List.length_append, Nat.add_sub_cancel, List.take_left]

/-- The rounds end at a name that does not end in a suffix. -/
theorem withoutClosures_of_not_suffix (h : ¬closureSuffix <:+ name) : withoutClosures name = name := by
  rw [withoutClosures, if_neg (mt List.isSuffixOf_iff_suffix.mp h)]

theorem withoutClosures_closureIn (function : List Char) (depth : Nat) :
    withoutClosures (closureIn function depth) = withoutClosures function := by
  induction depth with
  | zero => rfl
  | succ depth ih => rw [closureIn, withoutClosures_append, ih]

/-- Every name is that of a closure some depth in what is left of it, and what is left ends in no suffix. -/
theorem exists_closureIn (name : List Char) :
    (∃ depth, name = closureIn (withoutClosures name) depth) ∧ ¬closureSuffix <:+ withoutClosures name := by
  by_cases hends : closureSuffix <:+ name
  · obtain ⟨outer, rfl⟩ := hends
    have hshorter : outer.length < (outer ++ closureSuffix).length := by
      have hpos := length_closureSuffix_pos
      rw [List.length_append]
      omega
    obtain ⟨⟨depth, hdepth⟩, hleft⟩ := exists_closureIn outer
    rw [withoutClosures_append]
    exact ⟨⟨depth + 1, by rw [closureIn, ← hdepth]⟩, hleft⟩
  · rw [withoutClosures_of_not_suffix hends]
    exact ⟨⟨0, rfl⟩, hends⟩
termination_by name.length

/-- What is left of a name is the one function that ends in no suffix and in which the name is that of a closure. -/
theorem withoutClosures_eq_iff :
    withoutClosures name = function ↔ ¬closureSuffix <:+ function ∧ ∃ depth, name = closureIn function depth := by
  constructor
  · rintro rfl
    exact (exists_closureIn name).symm
  · rintro ⟨hends, depth, rfl⟩
    rw [withoutClosures_closureIn, withoutClosures_of_not_suffix hends]

/-- The suffixes at the end of a name can be taken away one by one, and then no more. -/
theorem exists_rounds (name : List Char) :
    ∃ rounds, name = closureIn (withoutClosures name) rounds ∧ ∀ k, (∃ left, name = closureIn left k) ↔ k ≤ rounds := by
  obtain ⟨⟨rounds, hrounds⟩, -⟩ := exists_closureIn name
  refine ⟨rounds, hrounds, fun k => ⟨?_, fun hk => ?_⟩⟩
  · rintro ⟨left, hleft⟩
    -- the name is a closure in what is left of `left`, which is what is left of the name
    obtain ⟨⟨more, hmore⟩, -⟩ := exists_closureIn left
    have hsame : withoutClosures left = withoutClosures name := by rw [hleft, withoutClosures_closureIn]
    have hboth : closureIn (withoutClosures name) (more + k) = closureIn (withoutClosures name) rounds := by
      rw [← hrounds, closureIn_add, ← hsame, ← hmore, ← hleft]
    have hlength := congrArg List.length hboth
    rw [length_closureIn, length_closureIn, Nat.add_left_cancel_iff] at hlength
    have hdepth := Nat.eq_of_mul_eq_mul_right length_closureSuffix_pos hlength
    omega
  · refine ⟨closureIn (withoutClosures name) (rounds - k), ?_⟩
    rw [← closureIn_add, Nat.sub_add_cancel hk]
    exact hrounds

/-! ## The function that spawned a task -/

section spawner

variable {entry spawner : String}

/-- The function that spawned a task is the one in which its entry is a closure, if it has a name. -/
theorem spawner?_eq_some_iff :
    spawner? entry = some spawner ↔
      spawner ≠ "" ∧ ¬closureSuffix <:+ spawner.toList ∧ ∃ depth, 0 < depth ∧ entry.toList = closureIn spawner.toList depth := by
  have hempty : spawner ≠ "" ↔ spawner.toList ≠ [] := not_congr String.toList_eq_nil_iff.symm
  rw [hempty]
  constructor
  · intro h
    simp only [spawner?] at h
    split at h
    · cases h
    · rename_i hleft
      rw [not_or] at hleft
      obtain rfl := Option.some.inj h
      rw [String.toList_ofList]
      obtain ⟨⟨depth, hdepth⟩, hends⟩ := exists_closureIn entry.toList
      refine ⟨hleft.2, hends, depth, Nat.pos_of_ne_zero fun hzero => hleft.1 ?_, hdepth⟩
      rw [hzero] at hdepth
      exact hdepth.symm
  · rintro ⟨hname, hends, depth, hdepth, hentry⟩
    have hleft : withoutClosures entry.toList = spawner.toList := withoutClosures_eq_iff.mpr ⟨hends, depth, hentry⟩
    have hne : spawner.toList ≠ entry.toList := by
      rw [hentry]
      exact fun h => Nat.ne_of_gt hdepth (closureIn_eq_self_iff.mp h.symm)
    simp only [spawner?, hleft, hne, hname, or_self, if_false, String.ofList_toList]

/-- A function that spawned a task is no closure. -/
theorem spawner?_of_spawner? (h : spawner? entry = some spawner) : spawner? spawner = none := by
  obtain ⟨-, hends, -⟩ := spawner?_eq_some_iff.mp h
  simp only [spawner?, withoutClosures_of_not_suffix hends, true_or, if_true]

end spawner

/-! ## Frames -/

/-- The frames of a spawn in their order: the name of the thread, the entry if another function spawned it, the function at whose
place it was spawned, and the exit of all tasks. -/
theorem spawnFrames_eq (name : Option String) (entry site : String) :
    spawnFrames name entry site =
      (name.map Frame.named).toList ++ ((spawner? entry).map fun _ => Frame.named entry).toList ++
        [.located ((spawner? entry).getD entry) site, .named FunctionName.taskExit] := by
  unfold spawnFrames entryFrames
  cases spawner? entry <;> simp

/-- An entry that is no closure has the place itself. -/
theorem spawnFrames_of_not_closure {name : Option String} {entry site : String} (h : ¬closureSuffix <:+ entry.toList) :
    spawnFrames name entry site = (name.map Frame.named).toList ++ [.located entry site, .named FunctionName.taskExit] := by
  have hnone : spawner? entry = none := by
    simp only [spawner?, withoutClosures_of_not_suffix h, true_or, if_true]
  rw [spawnFrames_eq, hnone, Option.map_none, Option.toList_none, List.append_nil, Option.getD_none]

/-- One frame has a place. -/
theorem filter_located_spawnFrames (name : Option String) (entry site : String) :
    (spawnFrames name entry site).filter (·.location.isSome) = [.located ((spawner? entry).getD entry) site] := by
  have hnamed : ∀ function, (Frame.named function).location.isSome = false := fun _ => rfl
  have hlocated : ∀ function, (Frame.located function site).location.isSome = true := fun _ => rfl
  rw [spawnFrames_eq]
  cases name <;> cases spawner? entry <;> simp [hnamed, hlocated]

/-- The entry is among the functions, whether or not another function spawned it. -/
theorem any_spawnFrames_entry (name : Option String) (entry site : String) :
    ((spawnFrames name entry site).any fun f => f.function == entry) = true := by
  rw [spawnFrames_eq]
  cases spawner? entry <;> simp [Frame.named, Frame.located]

/-- On top is the name of the thread, and the entry if it has none. -/
theorem topOf_spawnFrames (name : Option String) (entry site : String) :
    TaskRecord.topOf (spawnFrames name entry site) = name.getD entry := by
  rw [spawnFrames_eq]
  cases name <;> cases spawner? entry <;> rfl

/-! ## Frames of registered tasks -/

namespace Tracking

variable {w w' : Tracking} {a : Act} {acts : List Act} {called called' : Nat → List Frame → Prop}

/-- In this run a call on the tracker spawned a task with these frames. -/
def FramesCalled (acts : List Act) (t : Nat) (frames : List Frame) : Prop :=
  ∃ spawn entry site, .call t spawn entry site ∈ acts ∧ frames = spawnFrames spawn.name? entry site

/-- Calls and registries have frames with which their trackers were called. -/
structure FramedBy (w : Tracking) (called : Nat → List Frame → Prop) : Prop where
  calling : ∀ {c}, c ∈ w.calling → called c.task.tracker c.frames
  entry : ∀ {t e}, e ∈ (w.registry t).entries → called t e.2.frames

theorem framedBy_start (called : Nat → List Frame → Prop) : start.FramedBy called where
  calling h := by cases h
  entry h := by cases h

theorem FramedBy.mono (hf : w.FramedBy called) (hmono : ∀ t frames, called t frames → called' t frames) : w.FramedBy called' where
  calling hc := hmono _ _ (hf.calling hc)
  entry he := hmono _ _ (hf.entry he)

/-- Every act keeps the calls to frames with which trackers were called. -/
theorem FramedBy.calling_becomes (hf : w.FramedBy called) (hb : w.Becomes a w')
    (hnew : ∀ t spawn entry site, a = .call t spawn entry site → called t (spawnFrames spawn.name? entry site)) {c : Call}
    (hc : c ∈ w'.calling) : called c.task.tracker c.frames := by
  cases hb with
  | called =>
    rcases List.mem_append.mp hc with hc | hc
    · exact hf.calling hc
    · obtain rfl := List.mem_singleton.mp hc
      exact hnew _ _ _ _ rfl
  | registered => exact hf.calling (List.mem_filter.mp hc).1
  | same | threadLaunched | futureLaunched | launchFailed | threadBegun | threadEnded | pollBegun | pollPending | pollEnded |
      futureDropped | stateEntered | guardDropped | runtimeEnded => exact hf.calling hc

/-- Every act keeps the registries to frames with which their trackers were called. -/
theorem FramedBy.entry_becomes (hf : w.FramedBy called) (hb : w.Becomes a w') {t : Nat} {e : TaskId × Registered}
    (he : e ∈ (w'.registry t).entries) : called t e.2.frames := by
  have ht := turns_becomes hb t
  generalize w'.registry t = r at ht he
  cases ht with
  | same | number => exact hf.entry he
  | insert hcall htracker =>
    rcases Registry.mem_insertEntry he with rfl | he
    · exact htracker ▸ hf.calling hcall
    · exact hf.entry he
  | state =>
    obtain ⟨old, hold, rfl⟩ := List.mem_map.mp he
    have hframes : called t old.2.frames := hf.entry hold
    split <;> exact hframes
  | drop => exact hf.entry (List.mem_filter.mp he).1

/-- After every run the frames are those of calls in it. -/
theorem framedBy_run (acts : List Act) : (start.run acts).FramedBy (FramesCalled acts) := by
  induction acts using List.reverseRecOn with
  | nil => exact framedBy_start _
  | append_singleton acts a ih =>
    have hf : (start.run acts).FramedBy (FramesCalled (acts ++ [a])) := by
      refine ih.mono fun t frames => ?_
      rintro ⟨spawn, entry, site, hcall, hframes⟩
      exact ⟨spawn, entry, site, List.mem_append_left _ hcall, hframes⟩
    have hb := becomes_step (start.run acts) a
    rw [run_concat]
    refine ⟨hf.calling_becomes hb fun t spawn entry site ha => ?_, hf.entry_becomes hb⟩
    exact ⟨spawn, entry, site, List.mem_append_right _ (List.mem_singleton.mpr ha.symm), rfl⟩

/-- A record in a snapshot has the frames of a call on its tracker, and on top the name of the thread or the entry. -/
theorem exists_call_of_mem_records {t : Nat} {r : TaskRecord} (hr : r ∈ ((start.run acts).registry t).records) :
    ∃ spawn entry site, .call t spawn entry site ∈ acts ∧ r.topFunction = spawn.name?.getD entry ∧
      r.frames = spawnFrames spawn.name? entry site := by
  obtain ⟨e, he, heq⟩ := Registry.mem_records.mp hr
  obtain ⟨-, htop, hframes⟩ := TaskRecord.eq_of_iff.mp heq
  obtain ⟨spawn, entry, site, hcall, hspawn⟩ := (framedBy_run acts).entry he
  rw [hspawn] at htop hframes
  exact ⟨spawn, entry, site, hcall, htop.trans (topOf_spawnFrames _ _ _), hframes⟩

end Tracking

/-- Taking the closure suffixes of an entry away, one in each round, ends after as many rounds as there are. The function that spawned
the entry is the one that has a name, does not end in a suffix, and has one or more of them behind it in the entry; so there is at
most one, and nothing spawned it in turn. The frames of the spawn hold the entry. One of them has a place, that of the spawn: it is
the function that spawned the entry, or else the entry itself, and only the exit of all tasks is below it. On top is the name of the
thread, or the entry if it has none. A record in a snapshot of a tracker, after whatever acts, has the frames of a call on it, and what
is to be on top of them. -/
theorem frames_tell_entry_spawner_and_site (name : Option String) (entry site : String) :
    let frames := spawnFrames name entry site
    let sited := Frame.located ((spawner? entry).getD entry) site
    (∃ rounds, entry.toList = closureIn (withoutClosures entry.toList) rounds ∧
      ∀ k, (∃ left, entry.toList = closureIn left k) ↔ k ≤ rounds) ∧
    (∀ spawner, spawner? entry = some spawner ↔
      spawner ≠ "" ∧ ¬closureSuffix <:+ spawner.toList ∧ ∃ depth, 0 < depth ∧ entry.toList = closureIn spawner.toList depth) ∧
    (∀ spawner, spawner? entry = some spawner → spawner? spawner = none) ∧
    (∃ above, frames = above ++ [sited, .named FunctionName.taskExit]) ∧
    frames.filter (·.location.isSome) = [sited] ∧
    (∀ id state, (TaskRecord.of id state frames).hasFunction entry = true ∧
      (TaskRecord.of id state frames).topFunction = name.getD entry) ∧
    ∀ acts t records, ((Tracking.start.run acts).shot t).outcome = .ok records → ∀ r ∈ records,
      ∃ spawn entry' site', .call t spawn entry' site' ∈ acts ∧ r.topFunction = spawn.name?.getD entry' ∧
        r.frames = spawnFrames spawn.name? entry' site' := by
  intro frames sited
  refine ⟨exists_rounds entry.toList, fun _ => spawner?_eq_some_iff, fun _ => spawner?_of_spawner?, ?_, ?_, ?_, ?_⟩
  · exact ⟨_, spawnFrames_eq name entry site⟩
  · exact filter_located_spawnFrames name entry site
  · exact fun _ _ => ⟨any_spawnFrames_entry name entry site, topOf_spawnFrames name entry site⟩
  · intro acts t records houtcome r hr
    obtain rfl : ((Tracking.start.run acts).registry t).records = records := Except.ok.inj houtcome
    exact Tracking.exists_call_of_mem_records hr

/-- A closure that is written in another one is spawned by the function that holds both, and the frames show this function with the
place. -/
theorem closure_in_closure_spawned_by_serve :
    spawner? "app::serve::\x7b\x7bclosure\x7d\x7d::\x7b\x7bclosure\x7d\x7d" = some "app::serve" ∧
      (spawnFrames (some "acceptor") "app::serve::\x7b\x7bclosure\x7d\x7d::\x7b\x7bclosure\x7d\x7d" "src/serve.rs:12:20").filter
        (·.location.isSome) = [.located "app::serve" "src/serve.rs:12:20"] := by
  obtain ⟨-, hspawner, -, -, hsited, -⟩ := frames_tell_entry_spawner_and_site (some "acceptor")
    "app::serve::\x7b\x7bclosure\x7d\x7d::\x7b\x7bclosure\x7d\x7d" "src/serve.rs:12:20"
  have hserve := (hspawner "app::serve").mpr ⟨by decide, by decide, 2, by decide, by decide⟩
  rw [hserve] at hsited
  exact ⟨hserve, hsited⟩

end Stragglers
