import Mathlib.Data.List.Basic
import Stragglers.Proofs.Agreement

/-!
# Further rules

A policy with further rules expects more tasks, so every snapshot leaves over fewer of them, and its checks settle wherever those
without the rules do. A check with further rules therefore stops at an earlier attempt with nothing left over, or at the same one
with a verdict that is no worse (`sooner_or_relieved`): further rules can only help (`further_rules_only_help`).
-/

namespace Stragglers

open Backoff

/-- The second verdict is the first, or one by which fewer tasks are left over, or none. -/
inductive Relieved : Except LeakError Unit → Except LeakError Unit → Prop where
  | ok : Relieved (.ok ()) (.ok ())
  | snapshot (e : SnapshotError) : Relieved (.error (.snapshot e)) (.error (.snapshot e))
  | cleared (r : Report) : Relieved (.error (.leaked r)) (.ok ())
  | fewer {r r' : Report} (htasks : r'.tasks.Sublist r.tasks) (hne : r'.tasks ≠ []) (hattempts : r'.attempts = r.attempts) :
      Relieved (.error (.leaked r)) (.error (.leaked r'))

namespace Policy

variable {p q : Policy} {s : Source} {index : Nat}

/-! ## One attempt -/

/-- With further rules fewer tasks are left over, in the same order. -/
theorem leftOver_sublist_of_subset (hrules : p.rules ⊆ q.rules) (current : Option TaskId) (tasks : List TaskRecord) :
    (q.leftOver current tasks).Sublist (p.leftOver current tasks) := by
  refine List.monotone_filter_right tasks fun t ht => ?_
  simp only [decide_eq_true_eq] at ht ⊢
  exact ⟨ht.1, fun r hr => ht.2 r (hrules hr)⟩

/-- If nothing is left over, nothing is with further rules. -/
theorem leftOver_eq_nil_of_subset (hrules : p.rules ⊆ q.rules) {current : Option TaskId} {tasks : List TaskRecord}
    (h : p.leftOver current tasks = []) : q.leftOver current tasks = [] :=
  List.sublist_nil.mp (h ▸ leftOver_sublist_of_subset hrules current tasks)

/-- An answer that ends a check ends it with further rules. -/
theorem settles_of_subset (hrules : p.rules ⊆ q.rules) (index : Nat) (h : p.Settles s index) : q.Settles s index := by
  cases houtcome : (s.shot index).outcome with
  | error e => exact settles_of_error houtcome
  | ok tasks =>
    have hleft := (settles_iff_of_ok houtcome).mp h
    exact (settles_iff_of_ok houtcome).mpr (leftOver_eq_nil_of_subset hrules hleft)

/-- One answer decides no worse with further rules. -/
theorem relieved_verdict (hrules : p.rules ⊆ q.rules) (index : Nat) :
    Relieved (p.verdict s index) (q.verdict s index) := by
  cases houtcome : (s.shot index).outcome with
  | error e =>
    rw [verdict_of_error houtcome, verdict_of_error houtcome]
    exact .snapshot e
  | ok tasks =>
    by_cases hp : p.leftOver s.current tasks = []
    · rw [verdict_of_leftOver_eq_nil houtcome hp,
        verdict_of_leftOver_eq_nil houtcome (leftOver_eq_nil_of_subset hrules hp)]
      exact .ok
    · rw [verdict_of_leftOver_ne_nil houtcome hp]
      by_cases hq : q.leftOver s.current tasks = []
      · rw [verdict_of_leftOver_eq_nil houtcome hq]
        exact .cleared _
      · rw [verdict_of_leftOver_ne_nil houtcome hq]
        exact .fewer (leftOver_sublist_of_subset hrules s.current tasks) hq rfl

/-- An answer that ends a check, though not without further rules, ends it well. -/
theorem verdict_of_settles (hp : ¬p.Settles s index) (hq : q.Settles s index) : q.verdict s index = .ok () := by
  cases houtcome : (s.shot index).outcome with
  | error e => exact absurd (settles_of_error houtcome) hp
  | ok tasks => exact verdict_of_leftOver_eq_nil houtcome ((settles_iff_of_ok houtcome).mp hq)

/-! ## The whole check -/

/-- With further rules a check ends well in fewer attempts, or no worse in as many. -/
theorem sooner_or_relieved (hrules : p.rules ⊆ q.rules) (hretries : q.maxRetries = p.maxRetries) (s : Source) :
    ((q.check s).value = .ok () ∧ (q.check s).attempts.length < (p.check s).attempts.length) ∨
      (Relieved (p.check s).value (q.check s).value ∧
        (q.check s).attempts.length = (p.check s).attempts.length) := by
  obtain ⟨k, hk⟩ := exists_isLast (p.Settles s) p.maxRetries.toNat
  obtain ⟨j, hj⟩ := exists_isLast (q.Settles s) q.maxRetries.toNat
  have hbudget : q.maxRetries.toNat ≤ p.maxRetries.toNat := Nat.le_of_eq (congrArg UInt32.toNat hretries)
  have hle : j ≤ k := hj.le_of_imp (settles_of_subset hrules) hbudget hk
  rw [value_check hj, value_check hk, attempts_check hj, attempts_check hk, List.length_range, List.length_range]
  rcases Nat.lt_or_eq_of_le hle with hlt | rfl
  · left
    have hsettles : q.Settles s j := by
      refine hj.ends.resolve_right fun hend => ?_
      have hkbudget := hk.le_budget
      rw [← hretries] at hkbudget
      omega
    exact ⟨verdict_of_settles (hk.unsettled j hlt) hsettles, Nat.succ_lt_succ hlt⟩
  · exact Or.inr ⟨relieved_verdict hrules j, rfl⟩

/-- Let a policy have all rules of another and further ones, and allow as many retries. Where a check by the other ends well, its own
does, after no more attempts. Where the other reports tasks, its own ends well, after no more attempts, or reports some of the same
tasks in their order, after as many attempts. Where the other meets an error of a snapshot, its own meets the same one in the same
attempt, or has ended well before it. -/
theorem further_rules_only_help (hrules : p.rules ⊆ q.rules) (hretries : q.maxRetries = p.maxRetries) (s : Source) :
    ((p.check s).value = .ok () →
      (q.check s).value = .ok () ∧ (q.check s).attempts.length ≤ (p.check s).attempts.length) ∧
    (∀ r, (p.check s).value = .error (.leaked r) →
      ((q.check s).value = .ok () ∧ (q.check s).attempts.length ≤ (p.check s).attempts.length) ∨
      ∃ r', (q.check s).value = .error (.leaked r') ∧ r'.tasks ≠ [] ∧ r'.tasks.Sublist r.tasks ∧
        r'.attempts = r.attempts ∧ (q.check s).attempts.length = (p.check s).attempts.length) ∧
    (∀ e, (p.check s).value = .error (.snapshot e) →
      ((q.check s).value = .error (.snapshot e) ∧ (q.check s).attempts.length = (p.check s).attempts.length) ∨
      ((q.check s).value = .ok () ∧ (q.check s).attempts.length < (p.check s).attempts.length)) := by
  rcases sooner_or_relieved hrules hretries s with ⟨hok, hlt⟩ | ⟨hrelieved, heq⟩
  · have hle := Nat.le_of_lt hlt
    exact ⟨fun _ => ⟨hok, hle⟩, fun _ _ => Or.inl ⟨hok, hle⟩, fun _ _ => Or.inr ⟨hok, hlt⟩⟩
  · have hle := Nat.le_of_eq heq
    generalize (p.check s).value = before at hrelieved ⊢
    generalize (q.check s).value = after at hrelieved ⊢
    cases hrelieved with
    | ok => exact ⟨fun _ => ⟨rfl, hle⟩, nofun, nofun⟩
    | snapshot e => exact ⟨nofun, nofun, fun _ he => Or.inl ⟨he, heq⟩⟩
    | cleared r => exact ⟨nofun, fun _ _ => Or.inl ⟨rfl, hle⟩, nofun⟩
    | @fewer r r' htasks hne hattempts =>
      refine ⟨nofun, fun reported hreported => Or.inr ?_, nofun⟩
      cases hreported
      exact ⟨r', rfl, hne, htasks, hattempts, heq⟩

/-- A task that works and one that is a job, which stay. -/
def workAndJob : List TaskRecord :=
  [.of ⟨7⟩ "running" [.named "app::work"], .of ⟨8⟩ "idle" [.named "app::job"]]

/-- Settings that expect neither of them. -/
def mainSettings : List Setting :=
  [.rule (.topFunction "app::main"), .maxRetries 1]

/-- Settings with a further rule, for the task that works, and with a pretty report. -/
def mainAndWorkSettings : List Setting :=
  [.rule (.topFunction "app::work"), .pretty, .maxRetries 1, .rule (.topFunction "app::main")]

theorem further_rule_leaves_job :
    (settingsOnly mainSettings).rules ⊆ (settingsOnly mainAndWorkSettings).rules ∧
      (settingsOnly mainAndWorkSettings).maxRetries = (settingsOnly mainSettings).maxRetries ∧
      ((settingsOnly mainSettings).check (.steady (.ofTasks workAndJob) none)).value =
        .error (.leaked ⟨workAndJob, 2, false⟩) ∧
      ∃ r', ((settingsOnly mainAndWorkSettings).check (.steady (.ofTasks workAndJob) none)).value = .error (.leaked r') ∧
        r'.tasks ≠ [] ∧ r'.tasks.Sublist workAndJob ∧ r'.attempts = 2 := by
  have hrules : (settingsOnly mainSettings).rules ⊆ (settingsOnly mainAndWorkSettings).rules :=
    List.cons_subset.mpr ⟨List.mem_cons_of_mem _ List.mem_cons_self, List.nil_subset _⟩
  have hretries : (settingsOnly mainAndWorkSettings).maxRetries = (settingsOnly mainSettings).maxRetries := rfl
  have hreported : ((settingsOnly mainSettings).check (.steady (.ofTasks workAndJob) none)).value =
      .error (.leaked ⟨workAndJob, 2, false⟩) := by cbv
  have hjob : ((settingsOnly mainAndWorkSettings).check (.steady (.ofTasks workAndJob) none)).value ≠ .ok () := by
    decide +kernel
  obtain ⟨-, hfewer, -⟩ := further_rules_only_help hrules hretries (.steady (.ofTasks workAndJob) none)
  rcases hfewer _ hreported with ⟨hok, -⟩ | ⟨r', hr', hne, hsub, hattempts, -⟩
  · exact absurd hok hjob
  · exact ⟨hrules, hretries, hreported, r', hr', hne, hsub, hattempts⟩

end Policy

end Stragglers
