import Stragglers.Proofs.Tracking.Lifetime
import Stragglers.Proofs.Verdict

/-!
# A check while others go on

While a check on a tracker takes its snapshots, anything may happen between them. The verdict is about the moment of the last
snapshot: a check that ends well found only expected tasks then, and a report has just the unexpected ones, as they were.
-/

namespace Stragglers.Tracking

/-- The trackers at the snapshot of this index of a check: `gaps 0` is what happens between the beginning of the check and its
first snapshot, and `gaps (i + 1)` what happens between the snapshots `i` and `i + 1`. -/
def amid (w : Tracking) (gaps : Nat → List Act) (index : Nat) : Tracking :=
  w.run ((List.range (index + 1)).flatMap gaps)

/-- A tracker as a source for a check that begins now on a thread, while other things happen. -/
def sourceAmid (w : Tracking) (gaps : Nat → List Act) (thread tracker : Nat) : Source where
  shot i := (w.amid gaps i).shot tracker
  current := w.current? thread tracker

variable {w : Tracking} {gaps : Nat → List Act} {thread tracker : Nat} {p : Policy}

theorem amid_rest (w : Tracking) (index : Nat) : w.amid (fun _ => []) index = w := by
  rw [amid, List.flatMap_eq_nil_iff.mpr fun _ _ => rfl]
  rfl

/-- If nothing happens, the source is that of a tracker at rest. -/
theorem sourceAmid_rest (w : Tracking) (thread tracker : Nat) :
    w.sourceAmid (fun _ => []) thread tracker = w.source thread tracker := by
  simp only [sourceAmid, source, Source.steady, amid_rest]

theorem amid_run (acts : List Act) (gaps : Nat → List Act) (index : Nat) :
    (start.run acts).amid gaps index = start.run (acts ++ (List.range (index + 1)).flatMap gaps) :=
  (run_append start acts _).symm

/-- The numbers of each tracker's tasks increase after every run. -/
theorem ordered_run (acts : List Act) (t : Nat) : ((start.run acts).registry t).Ordered := by
  induction acts using List.reverseRecOn generalizing t with
  | nil => exact Registry.ordered_empty
  | append_singleton acts a ih =>
    rw [run_concat]
    exact ordered_becomes (becomes_step _ a) ih t

/-! ## The verdict -/

/-- What the check finds at its last snapshot. -/
theorem verdict_amid (p : Policy) (w : Tracking) (gaps : Nat → List Act) (thread tracker last : Nat) :
    p.verdict (w.sourceAmid gaps thread tracker) last =
      if p.leftOver (w.current? thread tracker) ((w.amid gaps last).registry tracker).records = [] then .ok ()
      else .error (.leaked ⟨p.leftOver (w.current? thread tracker) ((w.amid gaps last).registry tracker).records,
        min (last + 1) (UInt32.size - 1), p.pretty⟩) := rfl

/-- A check that ends well left nothing over. -/
theorem leftOver_of_ok {last : Nat} (hok : p.verdict (w.sourceAmid gaps thread tracker) last = .ok ()) :
    p.leftOver (w.current? thread tracker) ((w.amid gaps last).registry tracker).records = [] := by
  rw [verdict_amid] at hok
  split at hok
  · assumption
  · cases hok

/-- A report has what was left over. -/
theorem tasks_of_leaked {last : Nat} {report : Report}
    (hleaked : p.verdict (w.sourceAmid gaps thread tracker) last = .error (.leaked report)) :
    report.tasks = p.leftOver (w.current? thread tracker) ((w.amid gaps last).registry tracker).records := by
  rw [verdict_amid] at hleaked
  split at hleaked
  · cases hleaked
  · cases hleaked
    rfl

/-- There is a report if something was left over. -/
theorem leaked_of_mem {last : Nat} {r : TaskRecord}
    (hmem : r ∈ p.leftOver (w.current? thread tracker) ((w.amid gaps last).registry tracker).records) :
    ∃ report, p.verdict (w.sourceAmid gaps thread tracker) last = .error (.leaked report) ∧ r ∈ report.tasks := by
  have hne : p.leftOver (w.current? thread tracker) ((w.amid gaps last).registry tracker).records ≠ [] :=
    List.ne_nil_of_mem hmem
  exact ⟨_, by rw [verdict_amid, if_neg hne], hmem⟩

/-- What is left over of an ordered registry is in the order of the numbers. -/
theorem pairwise_leftOver {r : Registry} (h : r.Ordered) (current : Option TaskId) :
    (p.leftOver current r.records).Pairwise fun x y => x.id.val < y.id.val :=
  (Registry.pairwise_records h).filter _

/-- A listed task that is not the one that checks and that no rule matches is left over. -/
theorem exists_leftOver {r : Registry} {current : Option TaskId} {id : TaskId} (hid : id ∈ r.ids)
    (hcurrent : current ≠ some id) (hrules : ∀ t ∈ r.records, t.id = id → ∀ rule ∈ p.rules, rule.holds t = false) :
    ∃ t ∈ p.leftOver current r.records, t.id = id := by
  rw [← Registry.map_id_records] at hid
  obtain ⟨t, ht, rfl⟩ := List.mem_map.mp hid
  exact ⟨t, Policy.mem_leftOver.mpr ⟨ht, hcurrent, hrules t ht rfl⟩, rfl⟩

/-- Whatever happens while a check on a tracker takes its snapshots, there is a last one that decides it. The check ends well or
with a report. If it ends well, each task listed at the last snapshot was the one that checked, by what ran on its thread when it
began, or one that a rule matched. A report has records of tasks listed at the last snapshot, with the states and frames that they
had then, in the order of their numbers, none of them that of the task that checked or one that a rule matches, and none of a task
no longer listed. A task listed at the last snapshot, not the one that checked and not matched by a rule then, is always in the
report. As long as numbers are left, the tasks listed are those whose registrations something holds, and none that was dropped is
reported. -/
theorem check_amid_decided_at_last_snapshot (p : Policy) (acts : List Act) (gaps : Nat → List Act) (thread tracker : Nat) :
    let w := start.run acts
    let current := w.current? thread tracker
    let found := p.check (w.sourceAmid gaps thread tracker)
    ∃ last ≤ p.maxRetries.toNat,
      let w' := w.amid gaps last
      found.actions.filter Action.isLook = (List.range (last + 1)).flatMap (fun i => [.attempt i, .snapshot]) ∧
      (found.value = .ok () ∨ ∃ report, found.value = .error (.leaked report)) ∧
      (found.value = .ok () →
        ∀ r ∈ (w'.registry tracker).records, current = some r.id ∨ ∃ rule ∈ p.rules, rule.holds r = true) ∧
      (∀ report, found.value = .error (.leaked report) →
        report.tasks.Pairwise (fun x y => x.id.val < y.id.val) ∧
        (∀ r ∈ report.tasks,
          (∃ e, (r.id, e) ∈ (w'.registry tracker).entries ∧ r.state = e.state ∧ r.topFunction = TaskRecord.topOf e.frames ∧
            r.frames = e.frames) ∧
          current ≠ some r.id ∧ ∀ rule ∈ p.rules, rule.holds r = false) ∧
        ∀ id, id ∉ (w'.registry tracker).ids → id ∉ report.tasks.map (·.id)) ∧
      (∀ id ∈ (w'.registry tracker).ids, current ≠ some id →
        (∀ r ∈ (w'.registry tracker).records, r.id = id → ∀ rule ∈ p.rules, rule.holds r = false) →
        ∃ report, found.value = .error (.leaked report) ∧ id ∈ report.tasks.map (·.id)) ∧
      (Few (acts ++ (List.range (last + 1)).flatMap gaps) →
        (∀ id, id ∈ (w'.registry tracker).ids ↔ w'.Holds ⟨tracker, id⟩) ∧
        ∀ report, found.value = .error (.leaked report) →
          ∀ id, ⟨tracker, id⟩ ∈ start.along drops (acts ++ (List.range (last + 1)).flatMap gaps) →
            id ∉ report.tasks.map (·.id)) := by
  intro w current found
  obtain ⟨last, hlast⟩ := Backoff.exists_isLast (p.Settles (w.sourceAmid gaps thread tracker)) p.maxRetries.toNat
  have hvalue : found.value = p.verdict (w.sourceAmid gaps thread tracker) last := Policy.value_check hlast
  have hamid : w.amid gaps last = start.run (acts ++ (List.range (last + 1)).flatMap gaps) := amid_run acts gaps last
  have hordered : ((w.amid gaps last).registry tracker).Ordered := hamid ▸ ordered_run _ tracker
  -- what is reported is listed at the last snapshot
  have hreported : ∀ report, found.value = .error (.leaked report) → ∀ id ∈ report.tasks.map (·.id),
      id ∈ ((w.amid gaps last).registry tracker).ids := by
    intro report hleaked id hid
    rw [tasks_of_leaked (hvalue ▸ hleaked)] at hid
    obtain ⟨r, hr, rfl⟩ := List.mem_map.mp hid
    rw [← Registry.map_id_records]
    exact List.mem_map_of_mem (Policy.mem_leftOver.mp hr).1
  refine ⟨last, hlast.le_budget, Policy.looks_check hlast, ?_, ?_, ?_, ?_, ?_⟩
  · rw [hvalue, verdict_amid]
    split
    · exact Or.inl rfl
    · exact Or.inr ⟨_, rfl⟩
  · intro hok
    exact Policy.leftOver_eq_nil_iff.mp (leftOver_of_ok (hvalue ▸ hok))
  · intro report hleaked
    have htasks := tasks_of_leaked (hvalue ▸ hleaked)
    refine ⟨htasks ▸ pairwise_leftOver hordered _, fun r hr => ?_,
      fun id hid hmem => hid (hreported report hleaked id hmem)⟩
    obtain ⟨hrecord, hunexpected⟩ := Policy.mem_leftOver.mp (htasks ▸ hr)
    obtain ⟨e, he, heq⟩ := Registry.mem_records.mp hrecord
    exact ⟨⟨e, he, TaskRecord.eq_of_iff.mp heq⟩, hunexpected⟩
  · intro id hid hcurrent hrules
    obtain ⟨r, hr, rfl⟩ := exists_leftOver hid hcurrent hrules
    obtain ⟨report, hleaked, hmem⟩ := leaked_of_mem hr
    exact ⟨report, hvalue.trans hleaked, List.mem_map_of_mem hmem⟩
  · intro hfew
    have hs := sound_run _ hfew
    have haccount := accounted_run _ hfew
    rw [← hamid] at hs haccount
    refine ⟨fun id => (hs.custody.listed ⟨tracker, id⟩).symm, fun report hleaked id hdropped hmem => ?_⟩
    have hlists : (w.amid gaps last).Lists ⟨tracker, id⟩ := hreported report hleaked id hmem
    exact ((haccount.lists _).mp hlists).2 hdropped

end Stragglers.Tracking
