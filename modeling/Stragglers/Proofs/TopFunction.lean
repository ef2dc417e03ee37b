import Stragglers.Benign
import Stragglers.Proofs.Proc.ThreadName
import Stragglers.Proofs.Task.Spellings
import Stragglers.Proofs.Tracking.Isolation
import Stragglers.Proofs.Widening

/-!
# The function on top

The function on top of a record is kept beside its frames, and it is meant to be that of the first of them
(`TaskRecord.KeepsTop`). The sources give no other records, and of such a record each function by which it is matched on top stands
among its frames (`obtained_record_keeps_top_iff`). A text may give any function for the one on top, and the record is read with it
(`read_top_function_without_frame`).
-/

namespace Stragglers

open Json (Value Spells)
open Tracking (start)

namespace TaskRecord

variable {t : TaskRecord}

/-- The function on top is that of the first frame, and the empty text if there is none. -/
def KeepsTop (t : TaskRecord) : Prop :=
  t.topFunction = topOf t.frames

theorem keepsTop_of (id : TaskId) (state : String) (frames : List Frame) : (of id state frames).KeepsTop := rfl

/-- A record with the function of its first frame on top is the one that is built from its frames. -/
theorem KeepsTop.eq_of (h : t.KeepsTop) : t = of t.id t.state t.frames := by
  obtain ⟨id, state, topFunction, frames⟩ := t
  obtain rfl : topFunction = topOf frames := h
  rfl

/-- A function on top that has a name stands among the frames. -/
theorem KeepsTop.hasFunction {function : String} (h : t.KeepsTop) (hne : function ≠ "") (htop : t.topFunction = function) :
    t.hasFunction function = true := by
  rw [TaskRecord.hasFunction, List.any_eq_true]
  obtain ⟨f, hf, hfunction⟩ := Rule.exists_frame_of_topOf hne (h.symm.trans htop)
  exact ⟨f, hf, beq_iff_eq.mpr hfunction⟩

/-- If the function on top is one of some names, one of them stands among the frames. -/
theorem KeepsTop.exists_hasFunction {names : List String} (h : t.KeepsTop) (hnames : "" ∉ names)
    (htop : names.contains t.topFunction = true) : ∃ name ∈ names, t.hasFunction name = true := by
  have hmem : t.topFunction ∈ names := List.contains_iff_mem.mp htop
  exact ⟨t.topFunction, hmem, h.hasFunction (ne_of_mem_of_not_mem hmem hnames) rfl⟩

theorem KeepsTop.of_isTraceWriter (h : t.KeepsTop) (hkind : t.isTraceWriter = true) :
    ∃ name ∈ FunctionName.traceWriter, t.hasFunction name = true :=
  h.exists_hasFunction (by decide) hkind

theorem KeepsTop.of_isSignal (h : t.KeepsTop) (hkind : t.isSignal = true) :
    ∃ name ∈ FunctionName.signalRegistration :: FunctionName.signalDelivery, t.hasFunction name = true := by
  rcases Bool.or_eq_true_iff.mp hkind with htop | hregistration
  · obtain ⟨name, hname, hfunction⟩ := h.exists_hasFunction (by decide) htop
    exact ⟨name, List.mem_cons_of_mem _ hname, hfunction⟩
  · exact ⟨_, List.mem_cons_self, hregistration⟩

theorem KeepsTop.of_isTestHarness (h : t.KeepsTop) (hkind : t.isTestHarness = true) :
    t.isBlockedMain = true ∨ ∃ name ∈ FunctionName.testHarness, t.hasFunction name = true := by
  rcases Bool.or_eq_true_iff.mp hkind with hname | hmain
  · exact Or.inr (h.exists_hasFunction (by decide) (Bool.and_eq_true_iff.mp hname).1)
  · exact Or.inl hmain

end TaskRecord

open TaskRecord

theorem ProcDirectory.keepsTop_of_mem_shot {d : ProcDirectory} {records : List TaskRecord} {r : TaskRecord}
    (houtcome : d.shot.outcome = .ok records) (hr : r ∈ records) : r.KeepsTop := by
  obtain ⟨children, name, -, -, hthread⟩ := ProcDirectory.thread_of_mem_shot houtcome hr
  obtain ⟨comm, letter, -, heq⟩ := ProcDirectory.read_of_thread hthread
  rw [heq]
  exact keepsTop_of _ _ _

theorem Tracking.keepsTop_of_mem_shot {acts : List Act} {tracker : Nat} {records : List TaskRecord} {r : TaskRecord}
    (houtcome : ((start.run acts).shot tracker).outcome = .ok records) (hr : r ∈ records) : r.KeepsTop := by
  obtain rfl : ((start.run acts).registry tracker).records = records := Except.ok.inj houtcome
  obtain ⟨e, -, heq⟩ := Registry.mem_records.mp hr
  rw [heq]
  exact keepsTop_of _ _ _

/-- Where a record comes from. -/
inductive Origin where
  /-- It is built from its frames. -/
  | frames
  /-- It is in a snapshot of a process directory. -/
  | directory (d : ProcDirectory)
  /-- It is in a snapshot of a tracker, after these acts. -/
  | tracker (acts : List Act) (n : Nat)
  /-- It is read from a text that spells the value. -/
  | text (v : Value) (s : String)

namespace Origin

/-- The record comes from there. -/
def Gives : Origin → TaskRecord → Prop
  | .frames, r => ∃ id state frames, r = TaskRecord.of id state frames
  | .directory d, r => ∃ records, d.shot.outcome = .ok records ∧ r ∈ records
  | .tracker acts n, r => ∃ records, ((start.run acts).shot n).outcome = .ok records ∧ r ∈ records
  | .text v s, r => Spells (.spaced v) s.toList ∧ TaskRecord.read? s = some r

/-- If the record is read, then its text spells one that is built from frames. -/
def GivesTop : Origin → Prop
  | .text v _ => ∃ id state frames, (TaskRecord.of id state frames).Spelling v
  | _ => True

theorem Gives.keepsTop_iff {origin : Origin} {r : TaskRecord} (h : origin.Gives r) : r.KeepsTop ↔ origin.GivesTop := by
  cases origin with
  | frames =>
    obtain ⟨id, state, frames, rfl⟩ := h
    exact iff_of_true (keepsTop_of id state frames) trivial
  | directory d =>
    obtain ⟨records, houtcome, hr⟩ := h
    exact iff_of_true (ProcDirectory.keepsTop_of_mem_shot houtcome hr) trivial
  | tracker acts n =>
    obtain ⟨records, houtcome, hr⟩ := h
    exact iff_of_true (Tracking.keepsTop_of_mem_shot houtcome hr) trivial
  | text v s =>
    obtain ⟨hspells, hread⟩ := h
    constructor
    · intro hkeeps
      exact ⟨r.id, r.state, r.frames, hkeeps.eq_of ▸ (TaskRecord.read?_eq_some hspells).mp hread⟩
    · rintro ⟨id, state, frames, hspelling⟩
      rw [(TaskRecord.read?_eq_some hspells).mpr hspelling] at hread
      exact Option.some.inj hread ▸ keepsTop_of id state frames

end Origin

/-- A record that is built from frames has the function of the first frame on top, and so has each record in a snapshot of a process
directory or of a tracker, after whatever acts; a record that is read has it exactly if its text spells one that is built from
frames, since the function is read as it is given. Of a record that has it, a rule for the function on top matches only with this
function among the frames, and a task that is taken for a trace writer, for signal delivery or, not being a blocked main thread,
for a test harness has one of the names of its kind among them. -/
theorem obtained_record_keeps_top_iff {origin : Origin} {r : TaskRecord} (h : origin.Gives r) :
    (r.KeepsTop ↔ origin.GivesTop) ∧
    (r.KeepsTop →
      (∀ function, (Rule.topFunction function).holds r = true → r.hasFunction function = true) ∧
      (r.isTraceWriter = true → ∃ name ∈ FunctionName.traceWriter, r.hasFunction name = true) ∧
      (r.isSignal = true →
        ∃ name ∈ FunctionName.signalRegistration :: FunctionName.signalDelivery, r.hasFunction name = true) ∧
      (r.isTestHarness = true →
        r.isBlockedMain = true ∨ ∃ name ∈ FunctionName.testHarness, r.hasFunction name = true)) := by
  refine ⟨h.keepsTop_iff, fun hkeeps => ⟨fun function hholds => ?_, ?_, ?_, ?_⟩⟩
  · obtain ⟨hne, htop⟩ := Rule.holds_topFunction_iff.mp hholds
    exact hkeeps.hasFunction hne htop
  · exact hkeeps.of_isTraceWriter
  · exact hkeeps.of_isSignal
  · exact hkeeps.of_isTestHarness

/-- A trace writer in a process directory and a spawned thread have the function on top among their frames, and so has a record that
is read from a text with the function of the first frame on top. -/
theorem trace_writer_and_worker_keep_top :
    (∃ r, (Origin.directory (.sleeping "tracing-appende")).Gives r ∧ r.isTraceWriter = true ∧
      ∃ name ∈ FunctionName.traceWriter, r.hasFunction name = true) ∧
    (∃ r, (Origin.tracker Tracking.workerRun 1).Gives r ∧ (Rule.topFunction "worker").holds r = true ∧
      r.hasFunction "worker" = true) ∧
    ∃ r, (Origin.text (.object shuffledMembers) ((Value.object shuffledMembers).write .indented)).Gives r ∧ r.KeepsTop := by
  refine ⟨?_, ?_, ?_⟩
  · have houtcome : (ProcDirectory.sleeping "tracing-appende").shot.outcome =
        .ok [.of ⟨5⟩ "waiting" [.named "tracing-appende", .named FunctionName.taskExit]] := by decide +kernel
    obtain ⟨r, hgives, hkind⟩ : ∃ r, (Origin.directory (.sleeping "tracing-appende")).Gives r ∧ r.isTraceWriter = true :=
      ⟨_, ⟨_, houtcome, List.mem_cons_self⟩, by decide⟩
    obtain ⟨htop, hkept⟩ := obtained_record_keeps_top_iff hgives
    exact ⟨r, hgives, hkind, (hkept (htop.mpr trivial)).2.1 hkind⟩
  · obtain ⟨r, hgives, hname⟩ : ∃ r, (Origin.tracker Tracking.workerRun 1).Gives r ∧ r.topFunction = "worker" :=
      ⟨_, ⟨_, rfl, List.mem_singleton.mpr rfl⟩, rfl⟩
    obtain ⟨htop, hkept⟩ := obtained_record_keeps_top_iff hgives
    have hholds : (Rule.topFunction "worker").holds r = true := Rule.holds_topFunction_iff.mpr ⟨by decide, hname⟩
    exact ⟨r, hgives, hholds, (hkept (htop.mpr trivial)).1 "worker" hholds⟩
  · have hspells := proper_shuffledMembers.spells_write .indented
    have hspelling : (TaskRecord.of ⟨7⟩ "running" [.named "app::work", .located "app::main" "src/main.rs:1"]).Spelling
        (.object shuffledMembers) :=
      .object forall₂_shuffledFrames (Json.consists_known TaskRecord.memberNames (by decide) shuffledMembers)
    have hgives : (Origin.text (.object shuffledMembers) ((Value.object shuffledMembers).write .indented)).Gives _ :=
      ⟨hspells, (TaskRecord.read?_eq_some hspells).mpr hspelling⟩
    exact ⟨_, hgives, (obtained_record_keeps_top_iff hgives).1.mpr ⟨_, _, _, hspelling⟩⟩

/-- A text that gives the function on top another name than that of its only frame. -/
def borrowedText : String :=
  "\x7b\"id\":1,\"state\":\"running\",\"top_function\":\"tracing-appende\"," ++
    "\"frames\":[\x7b\"function\":\"app::work\",\"location\":null\x7d]\x7d"

/-- The record of the text. -/
def borrowedTop : TaskRecord :=
  ⟨⟨1⟩, "running", "tracing-appende", [.named "app::work"]⟩

/-- The text is read as the record, whose function on top is not that of its frame: the rule for the function on top matches it, and
it is taken for a trace writer, with no such function among its frames. -/
theorem read_top_function_without_frame :
    TaskRecord.read? borrowedText = some borrowedTop ∧ ¬borrowedTop.KeepsTop ∧
      (Rule.topFunction "tracing-appende").holds borrowedTop = true ∧ borrowedTop.hasFunction "tracing-appende" = false ∧
      borrowedTop.benign? = some .trace ∧ ∀ name ∈ FunctionName.traceWriter, borrowedTop.hasFunction name = false := by
  refine ⟨by decide +kernel, ?_, by decide, by decide, by decide, by decide⟩
  rw [KeepsTop]
  decide

end Stragglers
