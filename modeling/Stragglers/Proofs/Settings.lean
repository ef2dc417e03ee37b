import Stragglers.Proofs.EntryPoints

/-!
# What settings make of a policy

A policy is folded from its settings one by one, and what comes of it can be read off the list: the rules in their order, the last
setting of each other kind, and whether a pretty report is asked for at all (`applyAll_eq`). So settings of different kinds may
change places, and rules may among themselves (`Rearranged`). A report shows what the settings made of a snapshot
(`exists_shot_of_find_leaked`).
-/

namespace Stragglers

namespace Setting

/-! ## Reading settings -/

/-- The rule that a setting adds. -/
def rule? : Setting → Option Rule
  | .rule r => some r
  | _ => none

/-- The number of retries that a setting asks for. -/
def maxRetries? : Setting → Option UInt32
  | .maxRetries n => some n
  | _ => none

/-- The longest pause that a setting asks for. -/
def maxSleep? : Setting → Option Duration
  | .maxSleep d => some d
  | _ => none

/-- The setting asks for a pretty report. -/
def isPretty : Setting → Bool
  | .pretty => true
  | _ => false

/-- What is read from the last setting from which something is read. -/
def last? {β : Type} (read : Setting → Option β) (settings : List Setting) : Option β :=
  (settings.filterMap read).getLast?

theorem last?_concat {β : Type} (read : Setting → Option β) (settings : List Setting) (s : Setting) :
    last? read (settings ++ [s]) = (read s).or (last? read settings) := by
  rw [last?, List.filterMap_append, List.getLast?_append, last?]
  cases h : read s with
  | none => simp [h]
  | some b => simp [h]

theorem mem_filterMap_rule? {settings : List Setting} {r : Rule} : r ∈ settings.filterMap rule? ↔ .rule r ∈ settings := by
  rw [List.mem_filterMap]
  constructor
  · rintro ⟨s, hs, hr⟩
    cases s <;> cases hr
    exact hs
  · exact fun hr => ⟨_, hr, rfl⟩

end Setting

open Setting

namespace Policy

/-- A policy behind a list of settings, read off the list. -/
theorem applyAll_eq (p : Policy) (settings : List Setting) :
    p.applyAll settings =
      { rules := p.rules ++ settings.filterMap rule?
        maxRetries := (last? maxRetries? settings).getD p.maxRetries
        maxSleep := (last? maxSleep? settings).getD p.maxSleep
        cleanup := (last? cleanup? settings).or p.cleanup
        pretty := p.pretty || settings.any isPretty } := by
  induction settings using List.reverseRecOn with
  | nil => simp [applyAll, last?]
  | append_singleton settings s ih =>
    rw [applyAll_concat, ih]
    simp only [last?_concat, List.filterMap_append, List.any_append]
    cases s <;> simp [apply, rule?, maxRetries?, maxSleep?, cleanup?, isPretty]

/-- A task is expected behind a list of settings if it was before, or if a rule of the list matches it. -/
theorem expects_applyAll {p : Policy} {settings : List Setting} {t : TaskRecord} :
    (p.applyAll settings).expects t = true ↔ p.expects t = true ∨ ∃ r, .rule r ∈ settings ∧ r.holds t = true := by
  simp only [expects, Rule.anyMatch, applyAll_eq, List.any_append, Bool.or_eq_true, List.any_eq_true, mem_filterMap_rule?]

end Policy

/-! ## Settings in another order -/

namespace Setting

/-- What a setting is about. -/
inductive Kind where
  | rule | maxRetries | maxSleep | cleanup | pretty
deriving DecidableEq, Repr

/-- The kind of a setting. -/
def kind : Setting → Kind
  | .rule _ => .rule
  | .maxRetries _ => .maxRetries
  | .maxSleep _ => .maxSleep
  | .cleanup _ => .cleanup
  | .pretty => .pretty

/-- Two settings may change places: they are of different kinds, or both are rules. -/
def MayPass (a b : Setting) : Prop :=
  a.kind ≠ b.kind ∨ (a.kind = .rule ∧ b.kind = .rule)

/-- The second list comes of the first by neighbours that may change places doing so, one pair after the other. -/
inductive Rearranged (settings : List Setting) : List Setting → Prop where
  | same : Rearranged settings settings
  | swapped {before after : List Setting} {a b : Setting} (h : Rearranged settings (before ++ a :: b :: after))
      (hpass : a.MayPass b) : Rearranged settings (before ++ b :: a :: after)

variable {settings settings' : List Setting}

/-- Lists in another order have the same settings. -/
theorem Rearranged.perm (h : Rearranged settings settings') : settings.Perm settings' := by
  induction h with
  | same => exact List.Perm.refl _
  | swapped _ _ ih => exact ih.trans ((List.Perm.swap _ _ _).append_left _)

/-- Only settings of one kind, and not rules, have something to read. -/
structure ReadsOnly {β : Type} (read : Setting → Option β) (k : Kind) : Prop where
  ne_rule : k ≠ .rule
  none_of_ne : ∀ {s : Setting}, s.kind ≠ k → read s = none

theorem readsOnly_maxRetries? : ReadsOnly maxRetries? .maxRetries where
  ne_rule := by decide
  none_of_ne {s} h := by
    cases s with
    | maxRetries => exact absurd rfl h
    | rule | maxSleep | cleanup | pretty => rfl

theorem readsOnly_maxSleep? : ReadsOnly maxSleep? .maxSleep where
  ne_rule := by decide
  none_of_ne {s} h := by
    cases s with
    | maxSleep => exact absurd rfl h
    | rule | maxRetries | cleanup | pretty => rfl

theorem readsOnly_cleanup? : ReadsOnly cleanup? .cleanup where
  ne_rule := by decide
  none_of_ne {s} h := by
    cases s with
    | cleanup => exact absurd rfl h
    | rule | maxRetries | maxSleep | pretty => rfl

/-- Of two neighbours that may change places one has nothing to read. -/
theorem MayPass.none_or_none {β : Type} {read : Setting → Option β} {k : Kind} (hread : ReadsOnly read k) {a b : Setting}
    (h : a.MayPass b) : read a = none ∨ read b = none := by
  by_cases ha : a.kind = k
  · refine Or.inr (hread.none_of_ne fun hb => ?_)
    rcases h with hne | ⟨hrule, -⟩
    · exact hne (ha.trans hb.symm)
    · exact hread.ne_rule (ha.symm.trans hrule)
  · exact Or.inl (hread.none_of_ne ha)

/-- What is read from the last setting of one kind, other than rules, stays the same. -/
theorem Rearranged.last?_eq {β : Type} {read : Setting → Option β} {k : Kind} (hread : ReadsOnly read k)
    (h : Rearranged settings settings') : last? read settings = last? read settings' := by
  induction h with
  | same => rfl
  | @swapped before after a b _ hpass ih =>
    rw [ih, last?, last?, List.filterMap_append, List.filterMap_append]
    rcases hpass.none_or_none hread with hnone | hnone <;> simp [List.filterMap_cons, hnone]

end Setting

/-- Settings in another order make the same policy, but for the order of its rules. -/
theorem Policy.applyAll_rearranged {settings settings' : List Setting} (h : Rearranged settings settings') (p : Policy) :
    p.applyAll settings' = { p.applyAll settings with rules := p.rules ++ settings'.filterMap rule? } := by
  rw [applyAll_eq, applyAll_eq, h.last?_eq readsOnly_maxRetries?, h.last?_eq readsOnly_maxSleep?,
    h.last?_eq readsOnly_cleanup?, h.perm.any_eq]

/-! ## Settings that are asked for -/

/-- A source that always gives the same answer is the same behind the snapshots that settings take. -/
theorem Request.source_of_settings_steady {shot : Shot} {current : Option TaskId} {requests : List Request}
    {settings : List Setting} {source : Source}
    (h : (Request.settings (.steady shot current) requests).value = .ok (settings, source)) : source = .steady shot current := by
  induction requests generalizing settings with
  | nil =>
    cases h
    rfl
  | cons request requests ih =>
    -- what the first request makes of the rest keeps the source
    have hrest : ∀ {f : List Setting → List Setting},
        ((Request.settings (.steady shot current) requests).value.map fun r => (f r.1, r.2)) = .ok (settings, source) →
          source = .steady shot current := by
      intro f hmap
      cases hvalue : (Request.settings (.steady shot current) requests).value with
      | error e =>
        rw [hvalue] at hmap
        cases hmap
      | ok r =>
        rw [hvalue] at hmap
        cases hmap
        exact ih hvalue
    cases request with
    | given s => exact hrest h
    | nested kind qualifier => exact hrest h
    | ignoreCurrent =>
      simp only [Request.settings, Traced.value_bind] at h
      split at h
      · cases h
      · exact hrest h

/-! ## Reports -/

theorem Policy.pretty_withDefaults (settings : List Setting) :
    (withDefaults settings).pretty = settings.any isPretty := by
  have hnone : (ofRules Benign.rules).pretty = false := rfl
  rw [withDefaults, applyAll_eq, hnone, Bool.false_or]

/-- A report of a check is about tasks of one of its snapshots, in the order of the snapshot. None of them is the one that checks. The
report is pretty if a setting asks for it. -/
theorem exists_shot_of_find_leaked {source : Source} {settings : List Setting} {r : Report}
    (h : (find source settings).value = .error (.leaked r)) :
    r.tasks ≠ [] ∧ r.pretty = settings.any isPretty ∧
      ∃ index tasks, (source.shot index).outcome = .ok tasks ∧ r.tasks.Sublist tasks ∧
        ∀ t ∈ r.tasks, source.current ≠ some t.id := by
  simp only [find] at h
  split at h
  · cases h
  · obtain ⟨last, hlast⟩ :=
      Backoff.exists_isLast ((Policy.withDefaults settings).Settles source) (Policy.withDefaults settings).maxRetries.toNat
    rw [Policy.value_check hlast] at h
    obtain ⟨tasks, houtcome, hne, rfl⟩ := Policy.exists_of_verdict_leaked h
    exact ⟨hne, Policy.pretty_withDefaults settings, last, tasks, houtcome, List.filter_sublist,
      fun t ht => (Policy.mem_leftOver.mp ht).2.1⟩

end Stragglers
