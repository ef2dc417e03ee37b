import Stragglers.Proofs.Agreement
import Stragglers.Proofs.Retries

/-!
# A larger budget

How many retries are allowed is asked only where a check would try again. So a check with more retries goes the same way as far as
the one with fewer goes: if that settled, the two are the same (`check_withRetries_of_isLast`), and if it used up its retries, the
other makes the same attempts with the same pauses and goes on behind them (`prefix_actions_check`). More retries only extend a check
(`larger_budget_only_extends_check`).
-/

namespace Stragglers

open Backoff

namespace Policy

/-- The policy with another number of retries. -/
def withRetries (p : Policy) (n : UInt32) : Policy :=
  { p with maxRetries := n }

variable {p : Policy} {s : Source} {m : UInt32} {k : Nat}

/-! ## What a check does -/

/-- One attempt begins no other and makes no pause. -/
theorem plain_attempt (p : Policy) (s : Source) : Plain (p.attempt s) := by
  intro i
  obtain ⟨notices, hactions⟩ := exists_actions_attempt p s i
  have hsnapshot : ¬Action.isRepetition .snapshot = true := nofun
  rw [hactions, List.filter_cons_of_neg hsnapshot, filter_noted fun _ => rfl]

/-- When the attempts are over, no pause is made. -/
theorem sleeps_conclude (p : Policy) (outcome : Except LeakError (Outcome TaskRecord)) : (p.conclude outcome).sleeps = [] := by
  obtain ⟨notices, hactions⟩ := exists_actions_conclude p outcome
  rw [← Traced.sleeps_repetitions, hactions, filter_noted fun _ => rfl]
  rfl

/-- A check makes one pause behind each attempt but the last. -/
theorem sleeps_check (h : IsLast (p.Settles s) p.maxRetries.toNat k) : (p.check s).sleeps = p.backoff.pauses k := by
  have hrun := (isLast_attempt_iff.mpr h).sleeps_run (plain_attempt p s)
  have hconclude := sleeps_conclude p (p.backoff.run (p.attempt s)).value
  unfold Traced.sleeps at hrun hconclude ⊢
  rw [check, Traced.actions_bind, List.filterMap_append, hrun, hconclude, List.append_nil]

/-- What a check does before it comes to its last attempt. -/
def rounds (p : Policy) (s : Source) (last : Nat) : List Action :=
  (List.range last).flatMap fun i => attemptActions (p.attempt s) i ++ p.backoff.pauseActions (p.attempt s) i

/-- What is done for the first indices is done first for more of them. -/
theorem prefix_flatMap_range {α : Type} (f : Nat → List α) {j k : Nat} (h : j ≤ k) :
    (List.range j).flatMap f <+: (List.range k).flatMap f := by
  obtain ⟨d, rfl⟩ := Nat.exists_eq_add_of_le h
  rw [List.range_add, List.flatMap_append]
  exact List.prefix_append _ _

/-- An attempt begins the next round. -/
theorem prefix_rounds_succ (i : Nat) : p.rounds s i ++ attemptActions (p.attempt s) i <+: p.rounds s (i + 1) := by
  refine ⟨p.backoff.pauseActions (p.attempt s) i, ?_⟩
  rw [rounds, rounds, List.range_succ, List.flatMap_append, List.flatMap_singleton, List.append_assoc]

/-- A check makes its attempts with the pauses between them, and draws its conclusion from the last. -/
theorem actions_check (h : IsLast (p.Settles s) p.maxRetries.toNat k) :
    (p.check s).actions =
      p.rounds s k ++ attemptActions (p.attempt s) k ++ (p.conclude (outcomeAt (p.attempt s) k)).actions := by
  have hlast := isLast_attempt_iff.mpr h
  rw [check, Traced.actions_bind, value_run hlast, actions_run hlast]
  rfl

/-- The attempts up to one that comes no later than the last are made before anything else. -/
theorem prefix_actions_check {j : Nat} (h : IsLast (p.Settles s) p.maxRetries.toNat k) (hj : j ≤ k) :
    p.rounds s j ++ attemptActions (p.attempt s) j <+: (p.check s).actions := by
  rw [actions_check h, List.append_assoc]
  rcases Nat.lt_or_eq_of_le hj with hlt | rfl
  · exact ((prefix_rounds_succ j).trans (prefix_flatMap_range _ hlt)).trans (List.prefix_append _ _)
  · rw [← List.append_assoc]
    exact List.prefix_append _ _

/-- If tasks are left over, the conclusion is to tell how many. -/
theorem actions_conclude_leaked {i : Nat} {r : Report} (hr : p.verdict s i = .error (.leaked r)) :
    (p.conclude (outcomeAt (p.attempt s) i)).actions = [.noted (.alive r.tasks.length r.attempts)] := by
  obtain ⟨tasks, houtcome, hleft, rfl⟩ := exists_of_verdict_leaked hr
  rw [outcomeAt, value_attempt_ok houtcome]
  obtain ⟨t, rest, hcons⟩ := List.exists_cons_of_ne_nil hleft
  rw [hcons]
  rfl

/-! ## How a check ends -/

/-- A check that reports tasks has used up its retries, and the report counts all attempts. -/
theorem of_check_leaked {r : Report} (h : IsLast (p.Settles s) p.maxRetries.toNat k)
    (hr : (p.check s).value = .error (.leaked r)) :
    k = p.maxRetries.toNat ∧ r.attempts = min (p.maxRetries.toNat + 1) (UInt32.size - 1) := by
  rw [value_check h] at hr
  have hbudget : k = p.maxRetries.toNat := h.ends.resolve_left (not_settles_iff_exists_leaked.mpr ⟨r, hr⟩)
  obtain ⟨tasks, -, -, rfl⟩ := exists_of_verdict_leaked hr
  exact ⟨hbudget, by rw [hbudget]⟩

/-- A check ends well, with a report of what is left when its retries are used up, or with an error of a snapshot. -/
theorem value_check_cases (p : Policy) (s : Source) :
    (p.check s).value = .ok () ∨
      (∃ r, (p.check s).value = .error (.leaked r) ∧ r.attempts = min (p.maxRetries.toNat + 1) (UInt32.size - 1)) ∨
      ∃ e, (p.check s).value = .error (.snapshot e) := by
  obtain ⟨k, hk⟩ := exists_isLast (p.Settles s) p.maxRetries.toNat
  cases houtcome : (s.shot k).outcome with
  | error e => exact Or.inr (Or.inr ⟨e, (value_check hk).trans (verdict_of_error houtcome)⟩)
  | ok tasks =>
    by_cases hleft : p.leftOver s.current tasks = []
    · exact Or.inl ((value_check hk).trans (verdict_of_leftOver_eq_nil houtcome hleft))
    · have hr := (value_check hk).trans (verdict_of_leftOver_ne_nil houtcome hleft)
      exact Or.inr (Or.inl ⟨_, hr, (of_check_leaked hk hr).2⟩)

/-! ## Other numbers of retries -/

/-- A check that ends in the same attempt with another number of retries is the same. -/
theorem check_withRetries_of_isLast (h : IsLast (p.Settles s) p.maxRetries.toNat k) (hm : IsLast (p.Settles s) m.toNat k) :
    (p.withRetries m).check s = p.check s := by
  have hrun := run_eq _ (isLast_attempt_iff.mpr h)
  have hrun' := run_eq _ ((isLast_attempt_iff (p := p.withRetries m)).mpr hm)
  rw [check, check, hrun, hrun']
  rfl

/-- Let a policy allow more retries than another and agree with it otherwise. What its check looks at begins with what the other's
looks at. If the other's ends well or with an error of a snapshot, the two checks are the same from their first action to their
verdict. If the other's reports tasks, it has taken one snapshot more than it has retries, with a pause behind each but the last; its
own begins with all that the other does before it tells of them, and then it ends well, or with a report when its own retries are used
up, or with an error of a snapshot. If its own makes no more attempts than the other may, the two checks are the same again. -/
theorem larger_budget_only_extends_check (h : p.maxRetries ≤ m) (s : Source) :
    (p.check s).actions.filter Action.isLook <+: ((p.withRetries m).check s).actions.filter Action.isLook ∧
    (((p.check s).value = .ok () ∨ ∃ e, (p.check s).value = .error (.snapshot e)) →
      (p.withRetries m).check s = p.check s) ∧
    (∀ r, (p.check s).value = .error (.leaked r) →
      (p.check s).snapshots = p.maxRetries.toNat + 1 ∧
      (p.check s).sleeps = p.backoff.pauses p.maxRetries.toNat ∧
      (∃ opening, (p.check s).actions = opening ++ [.noted (.alive r.tasks.length r.attempts)] ∧
        opening <+: ((p.withRetries m).check s).actions) ∧
      (((p.withRetries m).check s).value = .ok () ∨
        (∃ r', ((p.withRetries m).check s).value = .error (.leaked r') ∧
          r'.attempts = min (m.toNat + 1) (UInt32.size - 1)) ∨
        ∃ e, ((p.withRetries m).check s).value = .error (.snapshot e))) ∧
    (((p.withRetries m).check s).attempts.length ≤ p.maxRetries.toNat + 1 → p.check s = (p.withRetries m).check s) := by
  obtain ⟨j, hj⟩ := exists_isLast (p.Settles s) p.maxRetries.toNat
  obtain ⟨k, hk⟩ := exists_isLast (p.Settles s) m.toNat
  have hbudget : p.maxRetries.toNat ≤ m.toNat := UInt32.le_iff_toNat_le.mp h
  have hk' : IsLast ((p.withRetries m).Settles s) (p.withRetries m).maxRetries.toNat k := hk
  have hjk : j ≤ k := hj.le_of_imp (fun _ => id) hbudget hk
  refine ⟨?_, fun hended => ?_, fun r hr => ?_, fun hattempts => ?_⟩
  · rw [looks_check hj, looks_check hk']
    exact prefix_flatMap_range _ (Nat.succ_le_succ hjk)
  · have hsettles : p.Settles s j := by
      by_contra hnot
      obtain ⟨r, hr⟩ := not_settles_iff_exists_leaked.mp hnot
      rw [value_check hj, hr] at hended
      rcases hended with hok | ⟨e, he⟩
      · cases hok
      · cases he
    exact check_withRetries_of_isLast hj (hj.of_settles hsettles (Nat.le_trans hj.le_budget hbudget))
  · obtain ⟨rfl, -⟩ := of_check_leaked hj hr
    have hactions := actions_check hj
    rw [actions_conclude_leaked ((value_check hj).symm.trans hr)] at hactions
    exact ⟨snapshots_check hj, sleeps_check hj, ⟨_, hactions, prefix_actions_check hk' hjk⟩,
      value_check_cases (p.withRetries m) s⟩
  · rw [attempts_check hk', List.length_range] at hattempts
    have hk_le : k ≤ p.maxRetries.toNat := Nat.le_of_succ_le_succ hattempts
    exact (check_withRetries_of_isLast (hk.of_le hbudget hk_le) hk).symm

/-- A task at work, and then another answer. -/
def workThen (shot : Shot) : Source :=
  .ofScript [.ofTasks [.of ⟨7⟩ "running" [.named "app::work"]], shot] none

/-- What a check without retries reports, one with a retry no longer finds, reports as well, or cannot see for an error. -/
theorem retry_ends_in_three_ways :
    (settingsOnly [.maxRetries 0]).maxRetries ≤ 1 ∧
      ((settingsOnly [.maxRetries 0]).check (workThen (.ofTasks []))).value =
        .error (.leaked ⟨[.of ⟨7⟩ "running" [.named "app::work"]], 1, false⟩) ∧
      (∃ opening,
        ((settingsOnly [.maxRetries 0]).check (workThen (.ofTasks []))).actions = opening ++ [.noted (.alive 1 1)] ∧
        opening <+: (((settingsOnly [.maxRetries 0]).withRetries 1).check (workThen (.ofTasks []))).actions) ∧
      (((settingsOnly [.maxRetries 0]).withRetries 1).check (workThen (.ofTasks []))).value = .ok () ∧
      (((settingsOnly [.maxRetries 0]).withRetries 1).check
          (workThen (.ofTasks [.of ⟨7⟩ "idle" [.named "app::work"]]))).value =
        .error (.leaked ⟨[.of ⟨7⟩ "idle" [.named "app::work"]], 2, false⟩) ∧
      (((settingsOnly [.maxRetries 0]).withRetries 1).check (workThen ⟨.error (.unavailable "gone"), []⟩)).value =
        .error (.snapshot (.unavailable "gone")) := by
  have hbudget : (settingsOnly [.maxRetries 0]).maxRetries ≤ 1 := by decide
  have hreported : ((settingsOnly [.maxRetries 0]).check (workThen (.ofTasks []))).value =
      .error (.leaked ⟨[.of ⟨7⟩ "running" [.named "app::work"]], 1, false⟩) := by cbv
  obtain ⟨-, -, hleaked, -⟩ := larger_budget_only_extends_check hbudget (workThen (.ofTasks []))
  obtain ⟨-, -, hopening, -⟩ := hleaked _ hreported
  exact ⟨hbudget, hreported, hopening, by cbv, by cbv, by cbv⟩

end Policy

end Stragglers
