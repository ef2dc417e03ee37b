import Mathlib.Data.List.Induction
import Stragglers.Proofs.Verdict

/-!
# One check behind all entry points

`find`, `verifyNone` and `verifyMain` look at the source in the same way: as `find` does with the settings that ask for no cleanup
(`find_withoutCleanups`). They differ in what they do around the check. `find` refuses settings with a cleanup, and the other two
call the cleanup that was asked for last, once, when everything else is done; only `verifyMain` writes to the error output
(`entry_points_share_one_check`).
-/

namespace Stragglers

/-! ## Cleanups among the settings -/

namespace Setting

/-- The cleanup that a setting asks for. -/
def cleanup? : Setting → Option String
  | .cleanup name => some name
  | _ => none

/-- The settings that ask for no cleanup, in their order. -/
def withoutCleanups (settings : List Setting) : List Setting :=
  settings.filter (!·.isCleanup)

/-- The cleanup that is asked for last. -/
def lastCleanup? (settings : List Setting) : Option String :=
  (settings.filterMap cleanup?).getLast?

/-- A cleanup is asked for exactly when there is a last one. -/
theorem isSome_lastCleanup? (settings : List Setting) : (lastCleanup? settings).isSome = settings.any isCleanup := by
  rw [lastCleanup?, Bool.eq_iff_iff, List.getLast?_isSome, ne_eq, List.filterMap_eq_nil_iff, List.any_eq_true]
  simp only [not_forall, exists_prop]
  refine exists_congr fun s => and_congr_right fun _ => ?_
  cases s <;> simp [cleanup?, isCleanup]

theorem withoutCleanups_concat (settings : List Setting) (s : Setting) :
    withoutCleanups (settings ++ [s]) = withoutCleanups settings ++ if s.isCleanup then [] else [s] := by
  rw [withoutCleanups, List.filter_append, withoutCleanups]
  cases s <;> rfl

theorem lastCleanup?_concat (settings : List Setting) (s : Setting) :
    lastCleanup? (settings ++ [s]) = s.cleanup?.or (lastCleanup? settings) := by
  rw [lastCleanup?, List.filterMap_append, List.getLast?_append, lastCleanup?]
  cases s <;> rfl

end Setting

namespace Policy

open Setting

variable {p : Policy} {source : Source}

theorem applyAll_concat (p : Policy) (settings : List Setting) (s : Setting) :
    p.applyAll (settings ++ [s]) = (p.applyAll settings).apply s := by
  rw [applyAll, List.foldl_append]
  rfl

/-- Of the settings for a cleanup the last one counts, and they change nothing else. -/
theorem applyAll_eq_withoutCleanups (p : Policy) (settings : List Setting) :
    p.applyAll settings =
      { p.applyAll (withoutCleanups settings) with cleanup := (lastCleanup? settings).or p.cleanup } := by
  induction settings using List.reverseRecOn with
  | nil => rfl
  | append_singleton settings s ih =>
    rw [applyAll_concat, ih, withoutCleanups_concat, lastCleanup?_concat]
    cases s with
    | cleanup name => simp [apply, isCleanup, cleanup?]
    | rule | maxRetries | maxSleep | pretty => simp [apply, isCleanup, cleanup?, applyAll_concat]

/-- The settings decide the cleanup of a policy by the last that asks for one. -/
theorem cleanup_withDefaults (settings : List Setting) : (withDefaults settings).cleanup = lastCleanup? settings := by
  rw [withDefaults, applyAll_eq_withoutCleanups]
  exact Option.or_none

/-- A check does not depend on the cleanup. -/
theorem check_cleanup (p : Policy) (cleanup : Option String) (source : Source) :
    ({ p with cleanup := cleanup }).check source = p.check source := rfl

/-- What calling the cleanup does. -/
theorem actions_cleanUp (p : Policy) (code : Int32) : (p.cleanUp code).actions = p.cleanup.toList.map (.cleaned · code) := by
  unfold cleanUp
  cases p.cleanup <;> rfl

end Policy

/-! ## What a check does -/

/-- The action belongs to a check: the suite does not run, no line is written to the error output, and no cleanup is called. -/
def Action.isOfCheck : Action → Bool
  | .ran | .printed _ | .cleaned _ _ => false
  | .attempt _ | .snapshot | .slept _ | .noted _ => true

namespace Policy

open Backoff

variable {p : Policy} {source : Source}

theorem isOfCheck_noteAll {notices : List Notice} : ∀ a ∈ notices.map Action.noted, a.isOfCheck = true := by
  intro a ha
  obtain ⟨n, -, rfl⟩ := List.mem_map.mp ha
  rfl

theorem isOfCheck_attempt (index : Nat) : ∀ a ∈ (p.attempt source index).actions, a.isOfCheck = true := by
  obtain ⟨notices, hactions⟩ := exists_actions_attempt p source index
  rw [hactions, List.forall_mem_cons]
  exact ⟨rfl, isOfCheck_noteAll⟩

theorem isOfCheck_conclude (outcome : Except LeakError (Outcome TaskRecord)) :
    ∀ a ∈ (p.conclude outcome).actions, a.isOfCheck = true := by
  obtain ⟨notices, hactions⟩ := exists_actions_conclude p outcome
  rw [hactions]
  exact isOfCheck_noteAll

/-- In a check the suite does not run, no line is written to the error output, and no cleanup is called. -/
theorem isOfCheck_check : ∀ a ∈ (p.check source).actions, a.isOfCheck = true := by
  rw [check, Traced.actions_bind, List.forall_mem_append]
  exact ⟨forall_mem_actions_run (fun _ => rfl) isOfCheck_attempt (fun _ _ _ => rfl) (fun _ => rfl), isOfCheck_conclude _⟩

end Policy

/-! ## The entry points -/

open Setting

/-- The message to panic with when a check is over. -/
def panicMessage? : Except LeakError Unit → Option String
  | .ok () => none
  | .error e => some e.message

/-- The exit code of a suite that ends with this code: a check that fails makes one of zero. -/
def exitCode (suite : Int32) (result : Except LeakError Unit) : Int32 :=
  if suite = 0 then
    match result with
    | .ok () => 0
    | .error _ => 1
  else suite

/-- What tells of a check that fails behind a suite that passed. -/
def complaintActions : Except LeakError Unit → List Action
  | .ok () => []
  | .error e => [.printed e.complaint]

/-- What calls the cleanup that is asked for last, if there is one. -/
def cleanupActions (settings : List Setting) (code : Int32) : List Action :=
  (lastCleanup? settings).toList.map (.cleaned · code)

/-- Without the settings for cleanups `find` checks by the policy of all settings. -/
theorem find_withoutCleanups (source : Source) (settings : List Setting) :
    find source (withoutCleanups settings) = (Policy.withDefaults settings).check source := by
  have hnone : lastCleanup? (withoutCleanups settings) = none := by
    rw [← Option.not_isSome_iff_eq_none, isSome_lastCleanup?]
    simp [withoutCleanups]
  rw [find, Policy.cleanup_withDefaults, hnone, Policy.withDefaults, Policy.withDefaults,
    Policy.applyAll_eq_withoutCleanups _ settings, Policy.check_cleanup]
  rfl

theorem find_eq (source : Source) (settings : List Setting) :
    find source settings =
      if settings.any isCleanup then ⟨[], .error .cleanupNotAllowed⟩ else find source (withoutCleanups settings) := by
  rw [find_withoutCleanups, ← isSome_lastCleanup?, ← Policy.cleanup_withDefaults]
  rfl

theorem verifyNone_eq (source : Source) (settings : List Setting) :
    verifyNone source settings =
      let result := find source (withoutCleanups settings)
      ⟨result.actions ++ cleanupActions settings 0, panicMessage? result.value⟩ := by
  rw [find_withoutCleanups, cleanupActions, ← Policy.cleanup_withDefaults, ← Policy.actions_cleanUp]
  unfold verifyNone
  cases h : ((Policy.withDefaults settings).check source).value <;> simp [bind, pure, h, panicMessage?]

theorem verifyMain_eq (source : Source) (suite : Int32) (settings : List Setting) :
    verifyMain source suite settings =
      let result := find source (withoutCleanups settings)
      let code := exitCode suite result.value
      ⟨.ran :: (if suite = 0 then result.actions ++ complaintActions result.value else []) ++ cleanupActions settings code,
        code⟩ := by
  rw [find_withoutCleanups]
  simp only [cleanupActions, ← Policy.cleanup_withDefaults, ← Policy.actions_cleanUp]
  unfold verifyMain exitCode complaintActions
  by_cases hsuite : suite = 0
  · cases h : ((Policy.withDefaults settings).check source).value <;> simp [bind, pure, h, hsuite, Traced.act]
  · simp [bind, pure, hsuite, Traced.act]

/-- All entry points make one check, that of `find` with the settings that ask for no cleanup, in which the suite does not run, no line
is written to the error output, and no cleanup is called. `find` makes it unless a cleanup is asked for, which it refuses before it
does anything. `verifyNone` makes it, then calls the cleanup that is asked for last with zero, and panics behind that exactly if the
check fails, with the message of the error. `verifyMain` runs the suite, makes the check if the code of the suite is zero, writes one
line with the message of the error if the check fails, and then calls the cleanup that is asked for last with the code that it gives
back: that of the suite, or one if the check fails. -/
theorem entry_points_share_one_check (source : Source) (settings : List Setting) (suite : Int32) :
    let result := find source (withoutCleanups settings)
    let code := exitCode suite result.value
    result.actions.all Action.isOfCheck = true ∧
      find source settings = (if settings.any isCleanup then ⟨[], .error .cleanupNotAllowed⟩ else result) ∧
      verifyNone source settings = ⟨result.actions ++ cleanupActions settings 0, panicMessage? result.value⟩ ∧
      verifyMain source suite settings =
        ⟨.ran :: (if suite = 0 then result.actions ++ complaintActions result.value else []) ++ cleanupActions settings code,
          code⟩ := by
  refine ⟨?_, find_eq source settings, verifyNone_eq source settings, verifyMain_eq source suite settings⟩
  rw [find_withoutCleanups, List.all_eq_true]
  exact Policy.isOfCheck_check

end Stragglers
