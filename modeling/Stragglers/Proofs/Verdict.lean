import Stragglers.Detection
import Stragglers.Proofs.Attempts

/-!
# The verdict of a check

A check is decided by one snapshot: the first one that fails or holds nothing unexpected, or the last one that the budget
allows (`check_decided_by_last_attempt`). What is unexpected is said here without the functions of the check: the tasks that
are not the one that checks and that no rule matches (`leftOver`).
-/

namespace Stragglers

open Backoff

/-- The action is one by which a check looks at its source: an attempt begins, or a snapshot is asked for. -/
def Action.isLook : Action → Bool
  | .attempt _ => true
  | .snapshot => true
  | _ => false

namespace Policy

variable (p : Policy) (s : Source)

/-- The answer to the request of this index ends the check: it is an error, or each of its tasks is the one that checks or is
matched by a rule. -/
def Settles (index : Nat) : Prop :=
  match (s.shot index).outcome with
  | .error _ => True
  | .ok tasks => ∀ t ∈ tasks, s.current = some t.id ∨ ∃ r ∈ p.rules, r.holds t = true

/-- The tasks of a snapshot that are not the one that checks and that no rule matches, in their order. -/
def leftOver (current : Option TaskId) (tasks : List TaskRecord) : List TaskRecord :=
  tasks.filter fun t => current ≠ some t.id ∧ ∀ r ∈ p.rules, r.holds t = false

/-- What the answer to the request of this index decides. -/
def verdict (index : Nat) : Except LeakError Unit :=
  match (s.shot index).outcome with
  | .error e => .error (.snapshot e)
  | .ok tasks =>
    if p.leftOver s.current tasks = [] then .ok ()
    else .error (.leaked ⟨p.leftOver s.current tasks, min (index + 1) (UInt32.size - 1), p.pretty⟩)

variable {p s}

/-- What one attempt passes on of a snapshot are the tasks left over. -/
theorem filter_isUnexpected (current : Option TaskId) (tasks : List TaskRecord) :
    tasks.filter (p.isUnexpected current) = p.leftOver current tasks := by
  refine List.filter_congr fun t _ => ?_
  rw [Bool.eq_iff_iff]
  simp only [isUnexpected_eq, expects, Rule.anyMatch, Bool.and_eq_true, bne_iff_ne, Bool.not_eq_true', List.any_eq_false,
    Bool.not_eq_true, decide_eq_true_eq]
  exact and_congr_left fun _ => ⟨Ne.symm, Ne.symm⟩

/-- Nothing is left over of a snapshot exactly when each of its tasks is the one that checks or is matched by a rule. -/
theorem leftOver_eq_nil_iff {current : Option TaskId} {tasks : List TaskRecord} :
    p.leftOver current tasks = [] ↔ ∀ t ∈ tasks, current = some t.id ∨ ∃ r ∈ p.rules, r.holds t = true := by
  simp only [leftOver, List.filter_eq_nil_iff, decide_eq_true_eq, not_and]
  refine forall₂_congr fun t _ => ?_
  rw [Decidable.or_iff_not_imp_left]
  refine forall_congr' fun _ => ?_
  simp

/-- A task is left over exactly when it is in the snapshot, is not the one that checks, and no rule matches it. -/
theorem mem_leftOver {current : Option TaskId} {tasks : List TaskRecord} {t : TaskRecord} :
    t ∈ p.leftOver current tasks ↔ t ∈ tasks ∧ current ≠ some t.id ∧ ∀ r ∈ p.rules, r.holds t = false := by
  simp [leftOver]

/-! ## What one answer decides -/

section answer

variable {index : Nat} {e : SnapshotError} {tasks : List TaskRecord}

/-- An error is the verdict. -/
theorem verdict_of_error (h : (s.shot index).outcome = .error e) : p.verdict s index = .error (.snapshot e) := by
  rw [verdict, h]

/-- If nothing of a snapshot is left over, the verdict is success. -/
theorem verdict_of_leftOver_eq_nil (h : (s.shot index).outcome = .ok tasks) (hleft : p.leftOver s.current tasks = []) :
    p.verdict s index = .ok () := by
  rw [verdict, h]
  exact if_pos hleft

/-- If something of a snapshot is left over, the verdict is the report of it. -/
theorem verdict_of_leftOver_ne_nil (h : (s.shot index).outcome = .ok tasks) (hleft : p.leftOver s.current tasks ≠ []) :
    p.verdict s index =
      .error (.leaked ⟨p.leftOver s.current tasks, min (index + 1) (UInt32.size - 1), p.pretty⟩) := by
  rw [verdict, h]
  exact if_neg hleft

/-- An error ends the check. -/
theorem settles_of_error (h : (s.shot index).outcome = .error e) : p.Settles s index := by
  rw [Settles, h]
  trivial

/-- A snapshot ends the check exactly if nothing of it is left over. -/
theorem settles_iff_of_ok (h : (s.shot index).outcome = .ok tasks) : p.Settles s index ↔ p.leftOver s.current tasks = [] := by
  rw [Settles, h]
  exact leftOver_eq_nil_iff.symm

/-- A report is about a snapshot of which something is left over. -/
theorem exists_of_verdict_leaked {r : Report} (hr : p.verdict s index = .error (.leaked r)) :
    ∃ tasks, (s.shot index).outcome = .ok tasks ∧ p.leftOver s.current tasks ≠ [] ∧
      r = ⟨p.leftOver s.current tasks, min (index + 1) (UInt32.size - 1), p.pretty⟩ := by
  cases houtcome : (s.shot index).outcome with
  | error e =>
    rw [verdict_of_error houtcome] at hr
    cases hr
  | ok tasks =>
    by_cases hleft : p.leftOver s.current tasks = []
    · rw [verdict_of_leftOver_eq_nil houtcome hleft] at hr
      cases hr
    · rw [verdict_of_leftOver_ne_nil houtcome hleft] at hr
      cases hr
      exact ⟨tasks, rfl, hleft, rfl⟩

/-- The verdict is a report exactly if the answer does not end the check. -/
theorem not_settles_iff_exists_leaked : ¬p.Settles s index ↔ ∃ r, p.verdict s index = .error (.leaked r) := by
  constructor
  · intro h
    cases houtcome : (s.shot index).outcome with
    | error e => exact absurd (settles_of_error houtcome) h
    | ok tasks => exact ⟨_, verdict_of_leftOver_ne_nil houtcome (mt (settles_iff_of_ok houtcome).mpr h)⟩
  · rintro ⟨r, hr⟩
    obtain ⟨tasks, houtcome, hleft, -⟩ := exists_of_verdict_leaked hr
    exact mt (settles_iff_of_ok houtcome).mp hleft

end answer

/-! ## One attempt -/

/-- What leaves out notices leaves nothing of them. -/
theorem filter_noted {keep : Action → Bool} (hkeep : ∀ n, keep (.noted n) = false) (notices : List Notice) :
    (notices.map Action.noted).filter keep = [] := by
  rw [List.filter_eq_nil_iff, List.forall_mem_map]
  exact fun n _ => Bool.eq_false_iff.mp (hkeep n)

/-- An attempt passes on the error of its snapshot. -/
theorem value_attempt_error {index : Nat} {e : SnapshotError} (h : (s.shot index).outcome = .error e) :
    (p.attempt s index).value = .error (.snapshot e) := by
  simp [attempt, Shot.take, h]

/-- An attempt passes on what is left over of its snapshot. -/
theorem value_attempt_ok {index : Nat} {tasks : List TaskRecord} (h : (s.shot index).outcome = .ok tasks) :
    (p.attempt s index).value = .ok (p.leftOver s.current tasks) := by
  simp [attempt, Shot.take, unexpected, h, filter_isUnexpected]

/-- An attempt settles exactly when the answer to its request ends the check. -/
theorem settles_attempt_iff (index : Nat) : Backoff.Settles (p.attempt s) index ↔ p.Settles s index := by
  unfold Backoff.Settles Settles
  cases h : (s.shot index).outcome with
  | error e => simp [value_attempt_error h]
  | ok tasks =>
    rw [value_attempt_ok h]
    simp only [Except.ok.injEq, forall_eq', leftOver_eq_nil_iff]

/-- An attempt asks for one snapshot, and all else that it does is to give notices. -/
theorem exists_actions_attempt (p : Policy) (s : Source) (index : Nat) :
    ∃ notices : List Notice, (p.attempt s index).actions = .snapshot :: notices.map .noted := by
  unfold attempt Shot.take
  cases (s.shot index).outcome with
  | error e => exact ⟨(s.shot index).notices, by simp⟩
  | ok tasks => exact ⟨(s.shot index).notices ++ tasks.filterMap (p.noticeOf? s.current), by simp [unexpected]⟩

/-- An attempt looks at its source once. -/
theorem looks_attempt (index : Nat) : (p.attempt s index).actions.filter Action.isLook = [.snapshot] := by
  obtain ⟨notices, hactions⟩ := exists_actions_attempt p s index
  have hsnapshot : Action.isLook .snapshot = true := rfl
  rw [hactions, List.filter_cons_of_pos hsnapshot, filter_noted fun _ => rfl]

/-- A source that answers alike to a request is asked alike. -/
theorem attempt_congr {s' : Source} {index : Nat} (hcurrent : s'.current = s.current)
    (hshot : s'.shot index = s.shot index) : p.attempt s' index = p.attempt s index := by
  simp only [attempt, hcurrent, hshot]

/-! ## The whole check -/

/-- The last attempt of a check, by the answers of its source. -/
theorem isLast_attempt_iff {last : Nat} :
    IsLast (Backoff.Settles (p.attempt s)) p.backoff.maxRetries.toNat last ↔
      IsLast (p.Settles s) p.maxRetries.toNat last :=
  ⟨IsLast.congr fun i _ => settles_attempt_iff i, IsLast.congr fun i _ => (settles_attempt_iff i).symm⟩

/-- Attempts that succeed end a check well. -/
theorem value_conclude_succeeded (attempts : Nat) : (p.conclude (.ok (.succeeded attempts))).value = .ok () := by
  unfold conclude
  by_cases h : 1 < attempts <;> simp [h]

/-- The verdict is what the last attempt decides. -/
theorem value_check {last : Nat} (h : IsLast (p.Settles s) p.maxRetries.toNat last) :
    (p.check s).value = p.verdict s last := by
  have hrun := value_run (isLast_attempt_iff.mpr h)
  unfold check verdict
  rw [Traced.value_bind, hrun]
  unfold outcomeAt
  cases hs : (s.shot last).outcome with
  | error e => simp [value_attempt_error hs, conclude]
  | ok tasks =>
    rw [value_attempt_ok hs]
    dsimp only
    cases hl : p.leftOver s.current tasks with
    | nil => simp [value_conclude_succeeded]
    | cons t rest => simp [conclude, attemptsAt, maxAttempts]

/-! ## What a check looks at -/

/-- One attempt looks at its source once. -/
theorem looks_attemptActions (index : Nat) :
    (attemptActions (p.attempt s) index).filter Action.isLook = [.attempt index, .snapshot] := by
  have hself : Action.isLook (.attempt index) = true := rfl
  rw [attemptActions, List.filter_cons_of_pos hself, looks_attempt]

/-- Nothing is looked at in a pause. -/
theorem looks_pauseActions (b : Backoff) (index : Nat) :
    (b.pauseActions (p.attempt s) index).filter Action.isLook = [] := by
  unfold pauseActions
  cases (p.attempt s index).value <;> simp [Action.isLook]

/-- When the attempts are over, all that is done is to give notices. -/
theorem exists_actions_conclude (p : Policy) (outcome : Except LeakError (Outcome TaskRecord)) :
    ∃ notices : List Notice, (p.conclude outcome).actions = notices.map .noted := by
  unfold conclude
  rcases outcome with e | ⟨attempts⟩ | ⟨attempts, remaining⟩
  · exact ⟨[], rfl⟩
  · by_cases h : 1 < attempts
    · exact ⟨[.cleared attempts], by simp [h]⟩
    · exact ⟨[], by simp [h]⟩
  · exact ⟨[.alive remaining.length attempts], rfl⟩

/-- Nothing is looked at when the attempts are over. -/
theorem looks_conclude (outcome : Except LeakError (Outcome TaskRecord)) :
    (p.conclude outcome).actions.filter Action.isLook = [] := by
  obtain ⟨notices, hactions⟩ := exists_actions_conclude p outcome
  rw [hactions, filter_noted fun _ => rfl]

/-- A check looks at its source once in each attempt up to the last. -/
theorem looks_check {last : Nat} (h : IsLast (p.Settles s) p.maxRetries.toNat last) :
    (p.check s).actions.filter Action.isLook = (List.range (last + 1)).flatMap fun i => [.attempt i, .snapshot] := by
  have hrun := actions_run (isLast_attempt_iff.mpr h)
  unfold check
  rw [Traced.actions_bind, hrun, List.filter_append, List.filter_append, looks_conclude, looks_attemptActions,
    List.filter_flatMap, List.range_succ, List.flatMap_append]
  simp only [List.filter_append, looks_attemptActions, looks_pauseActions, List.append_nil, List.flatMap_singleton]

/-- A check makes its attempts one after the other, up to the last. -/
theorem attempts_check {last : Nat} (h : IsLast (p.Settles s) p.maxRetries.toNat last) :
    (p.check s).attempts = List.range (last + 1) := by
  have hlooks : (p.check s).attempts =
      Traced.attempts ⟨(p.check s).actions.filter Action.isLook, (p.check s).value⟩ := by
    rw [Traced.attempts, Traced.attempts, List.filterMap_filter]
    congr 1
    funext a
    cases a <;> rfl
  rw [hlooks, looks_check h, Traced.attempts, List.filterMap_flatMap]
  exact List.flatMap_singleton' _

/-- The answers behind the last attempt play no part in a check. -/
theorem check_congr {s' : Source} {last : Nat} (h : IsLast (p.Settles s) p.maxRetries.toNat last)
    (hcurrent : s'.current = s.current) (hshot : ∀ i ≤ last, s'.shot i = s.shot i) : p.check s' = p.check s := by
  have hattempt : ∀ i ≤ last, p.attempt s' i = p.attempt s i := fun i hi => attempt_congr hcurrent (hshot i hi)
  have hlast := isLast_attempt_iff.mpr h
  have hlast' : IsLast (Backoff.Settles (p.attempt s')) p.backoff.maxRetries.toNat last := by
    refine hlast.congr fun i hi => ?_
    rw [Backoff.Settles, Backoff.Settles, hattempt i hi]
  have hround : ∀ i ∈ List.range last,
      attemptActions (p.attempt s') i ++ p.backoff.pauseActions (p.attempt s') i =
        attemptActions (p.attempt s) i ++ p.backoff.pauseActions (p.attempt s) i := by
    intro i hi
    simp only [attemptActions, pauseActions, hattempt i (Nat.le_of_lt (List.mem_range.mp hi))]
  have hrun : p.backoff.run (p.attempt s') = p.backoff.run (p.attempt s) := by
    rw [run_eq _ hlast, run_eq _ hlast', List.flatMap_def, List.flatMap_def, List.map_congr_left hround]
    simp only [attemptActions, outcomeAt, hattempt last (Nat.le_refl last)]
  rw [check, check, hrun]

/-! ## The law of a check -/

/-- One attempt decides a check: the first within the budget whose snapshot fails or holds only the task that checks and tasks
that a rule matches, and the last of the budget if there is none. The source is asked once in each attempt up to that one, in
their order. The verdict is the error of the snapshot, success if nothing of it is left over, and otherwise a report of just
what is left over of it, with the number of attempts. So no report is empty, and the answers behind the last attempt play no
part. -/
theorem check_decided_by_last_attempt (p : Policy) (s : Source) :
    ∃ last, (∀ k, IsLast (p.Settles s) p.maxRetries.toNat k ↔ k = last) ∧
      (p.check s).actions.filter Action.isLook = (List.range (last + 1)).flatMap (fun i => [.attempt i, .snapshot]) ∧
      (p.check s).value = p.verdict s last ∧
      (∀ r, (p.check s).value = .error (.leaked r) → r.tasks ≠ []) ∧
      ∀ s' : Source, s'.current = s.current → (∀ i ≤ last, s'.shot i = s.shot i) → p.check s' = p.check s := by
  obtain ⟨last, hlast⟩ := exists_isLast (p.Settles s) p.maxRetries.toNat
  refine ⟨last, fun k => ⟨fun hk => hk.unique hlast, fun hk => hk ▸ hlast⟩, looks_check hlast, value_check hlast, ?_,
    fun s' hcurrent hshot => check_congr hlast hcurrent hshot⟩
  intro r hr
  rw [value_check hlast, verdict] at hr
  split at hr
  · cases hr
  · split at hr
    · cases hr
    · rename_i hleft
      cases hr
      exact hleft

end Policy

end Stragglers
