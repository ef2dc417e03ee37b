import Stragglers.Proofs.EntryPoints

/-!
# Notices of trackers

Trackers tell of each task that is registered and of each that has ended (`Notice.isOfTracker`). Nothing else tells of them: neither a
check nor making its settings gives such a notice, as long as the source gives none (`quiet_find`, `quiet_settings`).
-/

namespace Stragglers

/-- The notice is that of a tracker: a task is registered, or has ended. -/
def Notice.isOfTracker : Notice → Bool
  | .tracking _ _ | .finished _ => true
  | .expected _ _ | .retrying _ _ _ | .cleared _ | .alive _ _ | .baseline _ | .tooLong _ | .skipped _ _ => false

/-- The action gives no notice of a tracker. -/
def Action.isQuiet : Action → Bool
  | .noted n => !n.isOfTracker
  | .attempt _ | .snapshot | .slept _ | .ran | .printed _ | .cleaned _ _ => true

/-- The source gives no notice of a tracker when it answers. -/
def Source.Quiet (s : Source) : Prop :=
  ∀ index, ∀ n ∈ (s.shot index).notices, n.isOfTracker = false

/-! ## Traces without notices of trackers -/

namespace Traced

variable {α β : Type} {t : Traced α} {f : α → Traced β} {notices : List Notice}

/-- Nothing that the trace does is to give a notice of a tracker. -/
def Quiet (t : Traced α) : Prop :=
  ∀ a ∈ t.actions, a.isQuiet = true

/-- A trace in which nothing is done is quiet. -/
theorem quiet_pure (a : α) : (pure a : Traced α).Quiet :=
  fun _ ha => absurd ha List.not_mem_nil

/-- Two quiet traces, one after the other, are quiet. -/
theorem Quiet.bind (ht : t.Quiet) (hf : (f t.value).Quiet) : (t >>= f).Quiet :=
  List.forall_mem_append.mpr ⟨ht, hf⟩

theorem quiet_act {a : Action} (h : a.isQuiet = true) : (act a).Quiet :=
  List.forall_mem_singleton.mpr h

/-- Notices that are not of trackers are quiet. -/
theorem quiet_noteAll (h : ∀ n ∈ notices, n.isOfTracker = false) : (noteAll notices).Quiet := by
  intro a ha
  obtain ⟨n, hn, rfl⟩ := List.mem_map.mp ha
  rw [Action.isQuiet, h n hn, Bool.not_false]

/-- A trace in which no tracker gives a notice has none of a tracker. -/
theorem Quiet.filter_notices (h : t.Quiet) : t.notices.filter Notice.isOfTracker = [] := by
  rw [List.filter_eq_nil_iff]
  intro n hn
  obtain ⟨a, ha, hnoted⟩ := List.mem_filterMap.mp hn
  cases a with
  | noted m =>
    obtain rfl := Option.some.inj hnoted
    have hquiet := h _ ha
    simpa [Action.isQuiet] using hquiet
  | attempt | snapshot | slept | ran | printed | cleaned => cases hnoted

end Traced

open Traced

/-! ## Checks -/

namespace Policy

variable {p : Policy} {source : Source}

/-- An attempt tells of nothing but what the source tells and what is expected. -/
theorem quiet_attempt (hs : source.Quiet) (index : Nat) : (p.attempt source index).Quiet := by
  have htake : (source.shot index).take.Quiet := (quiet_act rfl).bind ((quiet_noteAll (hs index)).bind (quiet_pure _))
  refine htake.bind ?_
  split
  · exact quiet_pure _
  · refine ((quiet_noteAll fun n hn => ?_).bind (quiet_pure _)).bind (quiet_pure _)
    obtain ⟨t, -, hnotice⟩ := List.mem_filterMap.mp hn
    unfold noticeOf? at hnotice
    split at hnotice
    · cases hnotice
    · obtain ⟨label, -, rfl⟩ := Option.map_eq_some_iff.mp hnotice
      rfl

/-- The end of a check tells of how many attempts there were and what is left. -/
theorem quiet_conclude (outcome : Except LeakError (Outcome TaskRecord)) : (p.conclude outcome).Quiet := by
  unfold conclude
  rcases outcome with e | ⟨attempts⟩ | ⟨attempts, remaining⟩
  · exact quiet_pure _
  · by_cases hmany : 1 < attempts
    · simp only [if_pos hmany]
      exact (quiet_act rfl).bind (quiet_pure _)
    · simp only [if_neg hmany]
      exact (quiet_pure _).bind (quiet_pure _)
  · exact (quiet_act rfl).bind (quiet_pure _)

/-- A check gives no notice of a tracker of its own. -/
theorem quiet_check (hs : source.Quiet) : (p.check source).Quiet :=
  Quiet.bind (Backoff.forall_mem_actions_run (fun _ => rfl) (quiet_attempt hs) (fun _ _ _ => rfl) fun _ => rfl) (quiet_conclude _)

end Policy

/-- Finding gives no notice of a tracker of its own. -/
theorem quiet_find {source : Source} (hs : source.Quiet) (settings : List Setting) : (find source settings).Quiet := by
  simp only [find]
  split
  · exact quiet_pure _
  · exact Policy.quiet_check hs

/-! ## Settings -/

/-- A baseline tells of its size, and of nothing else than what its snapshot tells. -/
theorem quiet_ignoreCurrent {shot : Shot} (hshot : ∀ n ∈ shot.notices, n.isOfTracker = false) :
    (Setting.ignoreCurrent shot).Quiet := by
  have htake : shot.take.Quiet := (quiet_act rfl).bind ((quiet_noteAll hshot).bind (quiet_pure _))
  refine htake.bind ?_
  split
  · exact quiet_pure _
  · exact (quiet_act rfl).bind (quiet_pure _)

/-- Making settings gives no notice of a tracker of its own. -/
theorem quiet_settings {source : Source} (hs : source.Quiet) (requests : List Request) :
    (Request.settings source requests).Quiet := by
  induction requests generalizing source with
  | nil => exact quiet_pure _
  | cons request requests ih =>
    cases request with
    | given s => exact (ih hs).bind (quiet_pure _)
    | nested kind qualifier =>
      refine (quiet_noteAll fun n hn => ?_).bind ((ih hs).bind (quiet_pure _))
      unfold Rule.nestedNotices at hn
      split at hn
      · cases hn
      · obtain rfl := List.mem_singleton.mp hn
        rfl
    | ignoreCurrent =>
      refine (quiet_ignoreCurrent (hs 0)).bind ?_
      split
      · exact quiet_pure _
      · exact (ih fun index => hs (1 + index)).bind (quiet_pure _)

end Stragglers
