import Stragglers.Proofs.Settings

/-!
# What a verdict depends on

Two policies that expect the same tasks and allow the same number of retries come to the same verdict on a source, after as many
snapshots (`Agree`). Of the settings from which they are built nothing else counts: neither the order of the rules nor their
labels, nor pauses, cleanups, the form of a report, or what later settings have replaced
(`verdict_depends_on_expectations_and_retries`).
-/

namespace Stragglers

open Backoff Setting

/-- Two checks end alike: both well, both with the same error of a snapshot, or both with reports of the same tasks after as many
attempts. -/
inductive SameVerdict : Except LeakError Unit → Except LeakError Unit → Prop where
  | ok : SameVerdict (.ok ()) (.ok ())
  | snapshot (e : SnapshotError) : SameVerdict (.error (.snapshot e)) (.error (.snapshot e))
  | leaked (tasks : List TaskRecord) (attempts : Nat) (pretty pretty' : Bool) :
      SameVerdict (.error (.leaked ⟨tasks, attempts, pretty⟩)) (.error (.leaked ⟨tasks, attempts, pretty'⟩))

namespace Policy

/-! ## Policies that agree -/

/-- Two policies expect the same tasks and allow the same number of retries. -/
structure Agree (p q : Policy) : Prop where
  expects : ∀ t, p.expects t = q.expects t
  maxRetries : p.maxRetries = q.maxRetries

variable {p q : Policy} {s : Source}

/-- Some rule matches a task exactly if the policy expects it. -/
theorem expects_iff {t : TaskRecord} : p.expects t = true ↔ ∃ r ∈ p.rules, r.holds t = true :=
  List.any_eq_true

/-- The same answers end the checks by policies that agree. -/
theorem Agree.settles_iff (h : p.Agree q) (index : Nat) : p.Settles s index ↔ q.Settles s index := by
  unfold Settles
  cases (s.shot index).outcome with
  | error e => exact Iff.rfl
  | ok tasks => simp only [← expects_iff, h.expects]

/-- Policies that agree leave over the same tasks. -/
theorem Agree.leftOver_eq (h : p.Agree q) (current : Option TaskId) (tasks : List TaskRecord) :
    p.leftOver current tasks = q.leftOver current tasks := by
  rw [← filter_isUnexpected, ← filter_isUnexpected]
  refine List.filter_congr fun t _ => ?_
  rw [isUnexpected_eq, isUnexpected_eq, h.expects]

/-- One answer decides the same by policies that agree. -/
theorem Agree.sameVerdict (h : p.Agree q) (index : Nat) : SameVerdict (p.verdict s index) (q.verdict s index) := by
  unfold verdict
  cases (s.shot index).outcome with
  | error e => exact .snapshot e
  | ok tasks =>
    simp only [h.leftOver_eq]
    by_cases hleft : q.leftOver s.current tasks = []
    · simp only [if_pos hleft]
      exact .ok
    · simp only [if_neg hleft]
      exact .leaked _ _ _ _

/-- A check takes one snapshot in each attempt up to the last. -/
theorem snapshots_check {last : Nat} (h : IsLast (p.Settles s) p.maxRetries.toNat last) :
    (p.check s).snapshots = last + 1 := by
  have hlooks : (p.check s).snapshots = ((p.check s).actions.filter Action.isLook).count .snapshot :=
    (List.count_filter rfl).symm
  rw [hlooks, looks_check h]
  generalize last + 1 = n
  induction n with
  | zero => rfl
  | succ n ih =>
    rw [List.range_succ, List.flatMap_append, List.count_append, ih]
    rfl

/-- Checks by policies that agree end alike, after as many snapshots. -/
theorem Agree.check (h : p.Agree q) (s : Source) :
    SameVerdict (p.check s).value (q.check s).value ∧ (p.check s).snapshots = (q.check s).snapshots := by
  obtain ⟨last, hlast⟩ := exists_isLast (p.Settles s) p.maxRetries.toNat
  have hlast' : IsLast (q.Settles s) q.maxRetries.toNat last := by
    rw [← h.maxRetries]
    exact hlast.congr fun i _ => h.settles_iff i
  rw [value_check hlast, value_check hlast', snapshots_check hlast, snapshots_check hlast']
  exact ⟨h.sameVerdict last, rfl⟩

/-! ## Policies built from settings -/

/-- Settings whose rules match the same tasks and that ask for the same number of retries at last make policies that agree. -/
theorem agree_applyAll {settings settings' : List Setting}
    (hrules : ∀ t, (∃ r, .rule r ∈ settings ∧ r.holds t = true) ↔ ∃ r, .rule r ∈ settings' ∧ r.holds t = true)
    (hretries : last? maxRetries? settings = last? maxRetries? settings') (p : Policy) :
    (p.applyAll settings).Agree (p.applyAll settings') where
  expects t := by
    rw [Bool.eq_iff_iff, expects_applyAll, expects_applyAll, hrules]
  maxRetries := by
    rw [applyAll_eq, applyAll_eq, hretries]

/-- Settings in another order make policies that agree. -/
theorem agree_of_rearranged {settings settings' : List Setting} (h : Rearranged settings settings') (p : Policy) :
    (p.applyAll settings).Agree (p.applyAll settings') := by
  refine agree_applyAll (fun t => exists_congr fun r => and_congr_left fun _ => ?_) (h.last?_eq readsOnly_maxRetries?) p
  exact h.perm.mem_iff

/-- Both ways to build a policy put the settings behind rules and set nothing else. -/
theorem exists_ofRules {build : List Setting → Policy} (h : build ∈ [withDefaults, settingsOnly]) :
    ∃ rules, ∀ settings, build settings = (ofRules rules).applyAll settings := by
  rw [List.mem_cons, List.mem_singleton] at h
  rcases h with rfl | rfl
  · exact ⟨Benign.rules, fun _ => rfl⟩
  · exact ⟨[], fun _ => rfl⟩

end Policy

open Policy

/-- A policy may be built from settings behind the rules for benign tasks, or from settings alone. Two lists of settings whose rules
match the same tasks, and that ask for the same number of retries at last or for none, make policies whose checks of any source end
alike after as many snapshots. Settings of different kinds that change places, and rules that do, leave the retries, the pauses, the
form of a report, the cleanup and what is expected as they are; the cleanup is the one asked for last. -/
theorem verdict_depends_on_expectations_and_retries (settings settings' : List Setting) :
    ∀ build ∈ [withDefaults, settingsOnly],
      ((∀ t, (∃ r, .rule r ∈ settings ∧ r.holds t = true) ↔ ∃ r, .rule r ∈ settings' ∧ r.holds t = true) →
        last? maxRetries? settings = last? maxRetries? settings' →
        ∀ source, SameVerdict ((build settings).check source).value ((build settings').check source).value ∧
          ((build settings).check source).snapshots = ((build settings').check source).snapshots) ∧
      (Rearranged settings settings' →
        (build settings').maxRetries = (build settings).maxRetries ∧
        (build settings').maxSleep = (build settings).maxSleep ∧
        (build settings').pretty = (build settings).pretty ∧
        (build settings').cleanup = (build settings).cleanup ∧
        ∀ t, (build settings').expects t = (build settings).expects t) ∧
      (build settings).cleanup = lastCleanup? settings := by
  intro build hbuild
  obtain ⟨rules, happly⟩ := exists_ofRules hbuild
  simp only [happly]
  refine ⟨fun hrules hretries source => (agree_applyAll hrules hretries _).check source, fun h => ?_, ?_⟩
  · have hexpects : ∀ t, ((ofRules rules).applyAll settings').expects t = ((ofRules rules).applyAll settings).expects t :=
      fun t => ((agree_of_rearranged h _).expects t).symm
    rw [applyAll_rearranged h] at hexpects ⊢
    exact ⟨rfl, rfl, rfl, rfl, hexpects⟩
  · rw [applyAll_eq]
    exact Option.or_none

/-- Settings that expect two kinds of tasks. -/
def jobSettings : List Setting :=
  [.maxRetries 5, .rule (.topFunction "app::work"), .cleanup "exit", .rule (.anyFunction "app::job"), .maxRetries 2]

/-- The same rules in another order, one of them twice and one under another label, with other pauses. -/
def relabelledSettings : List Setting :=
  [.rule (.anyFunction "app::job"), .maxSleep (.ofMillis 3), .rule { Rule.topFunction "app::work" with label := "workers" },
    .maxRetries 2, .pretty, .rule (.anyFunction "app::job")]

/-- The same settings, a rule before the retries that stood before it. -/
def movedSettings : List Setting :=
  [.rule (.topFunction "app::work"), .maxRetries 5, .cleanup "exit", .rule (.anyFunction "app::job"), .maxRetries 2]

theorem relabelled_settings_same_verdict :
    (∀ t, (∃ r, .rule r ∈ jobSettings ∧ r.holds t = true) ↔ ∃ r, .rule r ∈ relabelledSettings ∧ r.holds t = true) ∧
      last? maxRetries? jobSettings = last? maxRetries? relabelledSettings ∧
      SameVerdict ((withDefaults jobSettings).check (.steady (.ofTasks [.of ⟨7⟩ "running" []]) none)).value
        ((withDefaults relabelledSettings).check (.steady (.ofTasks [.of ⟨7⟩ "running" []]) none)).value ∧
      Rearranged jobSettings movedSettings ∧
      (withDefaults movedSettings).cleanup = (withDefaults jobSettings).cleanup := by
  have hrules : ∀ t, (∃ r, .rule r ∈ jobSettings ∧ r.holds t = true) ↔
      ∃ r, .rule r ∈ relabelledSettings ∧ r.holds t = true := by
    intro t
    simp only [jobSettings, relabelledSettings, List.mem_cons, List.not_mem_nil, reduceCtorEq, Setting.rule.injEq, false_or,
      or_false, or_and_right, exists_or, exists_eq_left]
    tauto
  have hretries : last? maxRetries? jobSettings = last? maxRetries? relabelledSettings := rfl
  have hmoved : Rearranged jobSettings movedSettings := @Rearranged.swapped _ [] _ _ _ .same (Or.inl (by decide))
  obtain ⟨hverdict, -, -⟩ :=
    verdict_depends_on_expectations_and_retries jobSettings relabelledSettings withDefaults List.mem_cons_self
  obtain ⟨-, hsame, -⟩ :=
    verdict_depends_on_expectations_and_retries jobSettings movedSettings withDefaults List.mem_cons_self
  exact ⟨hrules, hretries, (hverdict hrules hretries _).1, hmoved, (hsame hmoved).2.2.2.1⟩

end Stragglers
