import Stragglers.Setting
import Stragglers.Proofs.Tracking.Isolation

/-!
# Tasks expected from one moment on

The rule for the tasks alive at one moment matches by number. What is registered later has a number that its call had taken
before that moment and had not yet registered, or one that was given afterwards; as long as the numbers of the tracker are not
used up, neither is that of a task listed at the moment (`not_lists_of_registers_since`). So of the tasks in a later snapshot the
rule matches those that were listed then, and no other.
-/

namespace Stragglers.Tracking

variable {w w' w'' : Tracking} {a : Act} {h : Handle} {t : Nat}

/-! ## What a run does to the lists -/

/-- A listed task stays listed along a run that does not drop its registration. -/
theorem lists_run {later : List Act} (hl : w.Lists h) (hkept : h ∉ w.along drops later) : (w.run later).Lists h := by
  induction later using List.reverseRecOn with
  | nil => exact hl
  | append_singleton later a ih =>
    rw [along_concat, List.mem_append, not_or] at hkept
    obtain ⟨hkept, hlast⟩ := hkept
    rw [run_concat]
    exact (lists_becomes (becomes_step _ a)).mpr (Or.inr ⟨ih hkept, hlast⟩)

/-! ## Numbers since a moment -/

/-- Since `w` a tracker's next number has not gone down, and the calls that have yet to register with it have numbers of no task
listed in `w`. -/
structure NumbersSince (w w' : Tracking) (t : Nat) : Prop where
  next : (w.registry t).next ≤ (w'.registry t).next
  calling : ∀ {c}, c ∈ w'.calling → c.task.tracker = t → ¬w.Lists c.task

/-- An act for which the tracker has room keeps what is known since `w`: a call that it begins takes a number not given in `w`. -/
theorem NumbersSince.becomes (hn : NumbersSince w w' t) (hf : w.Fresh t) (hb : w'.Becomes a w'') (hroom : w'.HasRoomAt t a) :
    NumbersSince w w'' t where
  next := UInt64.le_trans hn.next (next_le_becomes hb hroom)
  calling {c} hc ht := by
    intro hl
    rcases calling_of_becomes hb hc with hc | ⟨u, -, htask⟩
    · exact hn.calling hc ht hl
    · rw [htask] at ht hl
      obtain rfl : u = t := ht
      have hlt : (w'.registry u).next < (w.registry u).next := hf.below _ hl
      exact UInt64.lt_irrefl _ (UInt64.lt_of_lt_of_le hlt hn.next)

theorem numbersSince_run (acts later : List Act) (hfew : FewOf t (acts ++ later)) :
    NumbersSince (start.run acts) (start.run (acts ++ later)) t := by
  have hf : (start.run acts).Fresh t := fresh_run acts hfew.of_append
  induction later using List.reverseRecOn with
  | nil =>
    rw [List.append_nil]
    exact ⟨UInt64.le_refl _, hf.unlisted⟩
  | append_singleton later a ih =>
    rw [← List.append_assoc] at hfew ⊢
    rw [run_concat]
    exact (ih hfew.of_append).becomes hf (becomes_step _ a) (hasRoomAt_run _ a hfew)

/-- A task that is registered after a moment was not listed at it. -/
theorem not_lists_of_registers_since {acts later : List Act} (hfew : FewOf h.tracker (acts ++ later))
    (hmem : h ∈ (start.run acts).along registers later) : ¬(start.run acts).Lists h := by
  induction later using List.reverseRecOn with
  | nil => cases hmem
  | append_singleton later a ih =>
    rw [← List.append_assoc] at hfew
    rw [along_concat, ← run_append] at hmem
    rcases List.mem_append.mp hmem with hmem | hmem
    · exact ih hfew.of_append hmem
    · obtain ⟨c, hc, rfl⟩ := exists_call_of_registers hmem
      exact (numbersSince_run acts later hfew.of_append).calling hc rfl

/-! ## The rule for the tasks alive at a moment -/

/-- The rule for the tasks of a tracker at one moment can always be made. At every later moment until which the tracker's numbers
are not used up, it matches of the tasks in a snapshot exactly those that were listed when it was made, and these are the ones
that have not been registered since. A task that was listed then and whose registration has not been dropped since is in the
snapshot, and the rule matches it in whatever state it is. -/
theorem baseline_matches_tasks_listed_at_capture (acts : List Act) (t : Nat) :
    ∃ rule, (Setting.ignoreCurrent ((start.run acts).shot t)).value = .ok (.rule rule) ∧
      ∀ later, FewOf t (acts ++ later) → ∃ tasks, ((start.run (acts ++ later)).shot t).outcome = .ok tasks ∧
        (∀ r ∈ tasks, (rule.holds r = true ↔ (start.run acts).Lists ⟨t, r.id⟩) ∧
          (rule.holds r = true ↔ ⟨t, r.id⟩ ∉ (start.run acts).along registers later)) ∧
        ∀ id, (start.run acts).Lists ⟨t, id⟩ → ⟨t, id⟩ ∉ (start.run acts).along drops later →
          ∃ r ∈ tasks, r.id = id ∧ rule.holds r = true := by
  refine ⟨_, Setting.value_ignoreCurrent rfl, fun later hfew => ⟨_, rfl, fun r hr => ?_, fun id hl hkept => ?_⟩⟩
  all_goals rw [Registry.map_id_records]
  · have hlisted : (start.run (acts ++ later)).Lists ⟨t, r.id⟩ := by
      rw [Lists, ← Registry.map_id_records]
      exact List.mem_map_of_mem hr
    rw [run_append] at hlisted
    have hholds : (Rule.ofIds ((start.run acts).registry t).ids).holds r = true ↔ (start.run acts).Lists ⟨t, r.id⟩ :=
      Rule.holds_ofIds
    refine ⟨hholds, hholds.trans ⟨fun hl hmem => not_lists_of_registers_since hfew hmem hl, fun hmem => ?_⟩⟩
    exact (lists_or_registers_of_run hlisted).resolve_right hmem
  · have hlater := lists_run hl hkept
    rw [← run_append, Lists, ← Registry.map_id_records] at hlater
    obtain ⟨r, hr, rfl⟩ := List.mem_map.mp hlater
    exact ⟨r, hr, rfl, Rule.holds_ofIds.mpr hl⟩

/-- A job is spawned, and the worker enters a state. -/
def jobAndState : List Act :=
  [.call 1 .future "app::job" "src/main.rs:9:5", .register ⟨1, ⟨2⟩⟩, .launch ⟨1, ⟨2⟩⟩ true, .enterState 1 1 "syscall"]

theorem worker_expected_job_not :
    FewOf 1 (workerRun ++ jobAndState) ∧
      ∃ rule, (Setting.ignoreCurrent ((start.run workerRun).shot 1)).value = .ok (.rule rule) ∧
        ∃ tasks, ((start.run (workerRun ++ jobAndState)).shot 1).outcome = .ok tasks ∧ tasks.map (·.id) = [⟨1⟩, ⟨2⟩] ∧
          ∀ r ∈ tasks, rule.holds r = true ↔ r.id = ⟨1⟩ := by
  have hfew : FewOf 1 (workerRun ++ jobAndState) := by
    rw [FewOf]
    decide
  obtain ⟨rule, hrule, hlater⟩ := baseline_matches_tasks_listed_at_capture workerRun 1
  obtain ⟨tasks, htasks, hexact, -⟩ := hlater jobAndState hfew
  refine ⟨hfew, rule, hrule, tasks, htasks, ?_, fun r hr => (hexact r hr).1.trans ?_⟩
  · cases htasks
    rfl
  · show r.id ∈ [⟨1⟩] ↔ r.id = ⟨1⟩
    exact List.mem_singleton

end Stragglers.Tracking
