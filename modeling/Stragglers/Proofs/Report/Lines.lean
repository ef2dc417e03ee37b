import Mathlib.Algebra.Group.Action.Defs
import Mathlib.Algebra.Order.BigOperators.Group.List
import Mathlib.Algebra.Order.Ring.Nat
import Stragglers.Proofs.Proc.Benign
import Stragglers.Proofs.Settings
import Stragglers.Proofs.Tracking.Benign

/-!
# The lines of a report

The text of a report that is not pretty is meant to have one line for each task, and it has a line more for each line break in the
state or on top of a task (`Report.length_lines_text`). A task on whose thread nobody has put such a name or state stands in a line of
its own, from which its number is read back (`line_for_each_task_iff_unbroken`). Nothing keeps line breaks out of the names of threads,
and with one a thread can write the line of another task into the report (`named_thread_writes_line_of_other`).
-/

namespace Stragglers

open Tracking (start)

/-! ## Lines of a text -/

namespace Text

variable {cs : List Char} {s : String} {parts : List String}

/-- The lines of a text, which its line breaks divide. -/
def lines (s : String) : List String :=
  (s.toList.splitOn '\n').map String.ofList

/-- A text has a line more than line breaks. -/
theorem length_lines (s : String) : (lines s).length = s.toList.count '\n' + 1 := by
  rw [lines, List.length_map]
  induction s.toList with
  | nil => rfl
  | cons c cs ih =>
    rw [List.splitOn_cons_eq_if_modifyHead, List.count_cons]
    split <;> simp [ih]

theorem lines_append (s t : String) : lines (s ++ "\n" ++ t) = lines s ++ lines t := by
  have hbreak : (s ++ "\n" ++ t).toList = s.toList ++ '\n' :: t.toList := by simp [String.toList_append]
  rw [lines, hbreak, List.splitOn_append_cons_self, List.map_append, lines, lines]

/-- The lines of texts that line breaks divide are the lines of each, one text after the other. -/
theorem lines_intercalate (h : parts ≠ []) : lines ("\n".intercalate parts) = parts.flatMap lines := by
  induction parts with
  | nil => exact absurd rfl h
  | cons s parts ih =>
    by_cases hlast : parts = []
    · subst hlast
      rw [String.intercalate_singleton, List.flatMap_singleton]
    · rw [String.intercalate_cons_of_ne_nil hlast, lines_append, ih hlast, List.flatMap_cons]

/-- What holds no line break and begins a text begins its first line. -/
theorem exists_first_line (h : '\n' ∉ cs) (rest : List Char) :
    ∃ line more, lines (String.ofList (cs ++ rest)) = String.ofList (cs ++ line) :: more := by
  have hsplit : ∃ line more, (cs ++ rest).splitOn '\n' = (cs ++ line) :: more := by
    induction cs with
    | nil => exact List.exists_cons_of_ne_nil (List.splitOn_ne_nil _ _)
    | cons c cs ih =>
      obtain ⟨hc, hcs⟩ := not_or.mp (mt List.mem_cons.mpr h)
      obtain ⟨line, more, hline⟩ := ih hcs
      refine ⟨line, more, ?_⟩
      rw [List.cons_append, List.splitOn_cons_eq_if_modifyHead, if_neg (by simpa using Ne.symm hc), hline,
        List.modifyHead_cons, List.cons_append]
  obtain ⟨line, more, hsplit⟩ := hsplit
  exact ⟨line, more.map String.ofList, by rw [lines, String.toList_ofList, hsplit, List.map_cons]⟩

theorem lines_of_not_mem (h : '\n' ∉ s.toList) : lines s = [s] := by
  rw [lines, List.splitOn_eq_singleton h, List.map_singleton, String.ofList_toList]

end Text

/-! ## The line of a task -/

namespace TaskRecord

variable {t : TaskRecord}

/-- How many line breaks stand in the state and on top of a task. -/
def breaks (t : TaskRecord) : Nat :=
  t.state.toList.count '\n' + t.topFunction.toList.count '\n'

theorem breaks_eq_zero_iff : t.breaks = 0 ↔ '\n' ∉ t.state.toList ∧ '\n' ∉ t.topFunction.toList := by
  rw [breaks, Nat.add_eq_zero_iff, List.count_eq_zero, List.count_eq_zero]

/-- What the sentence on a task begins with: the name of the task and a blank. -/
def opening (id : TaskId) : List Char :=
  (id.text ++ " ").toList

theorem opening_eq (id : TaskId) : opening id = "Task#".toList ++ (Nat.toDigits 10 id.val.toNat ++ [' ']) := by
  simp [opening, TaskId.text, String.toList_append]

theorem newline_not_mem_opening (id : TaskId) : '\n' ∉ opening id := by
  have hdigits : '\n' ∉ Nat.toDigits 10 id.val.toNat := fun hmem =>
    absurd (Nat.isDigit_of_mem_toDigits (by decide) (by decide) hmem) (by decide)
  simp [opening_eq, hdigits]

/-- The characters of the sentence on a task. -/
theorem toList_summary (t : TaskRecord) :
    t.summary.toList = opening t.id ++
      ("in state ".toList ++ t.state.toList ++ ", with ".toList ++ t.topFunction.toList ++ " on top of the stack".toList) := by
  simp [summary, opening, String.toList_append]

theorem count_summary (t : TaskRecord) : t.summary.toList.count '\n' = t.breaks := by
  rw [toList_summary, List.count_append, List.count_eq_zero.mpr (newline_not_mem_opening t.id)]
  simp [List.count_append, breaks]

/-- The number of the task that a line is about: it stands in digits behind the first word. -/
def idOfLine? (line : String) : Option TaskId :=
  (Text.digits? ((line.toList.drop "Task#".length).takeWhile Char.isDigit)).map TaskId.mk

/-- The number is read from whatever begins with the first word and the number. -/
theorem idOfLine?_opening (id : TaskId) (rest : List Char) : idOfLine? (String.ofList (opening id ++ rest)) = some id := by
  have hdigits : ∀ c ∈ Nat.toDigits 10 id.val.toNat, c.isDigit = true := fun c hc =>
    Nat.isDigit_of_mem_toDigits (by decide) (by decide) hc
  rw [idOfLine?, String.toList_ofList, opening_eq, List.append_assoc, List.append_assoc,
    show "Task#".length = "Task#".toList.length from rfl, List.drop_left, List.takeWhile_append_of_pos hdigits,
    List.singleton_append, List.takeWhile_cons_of_neg (by decide), List.append_nil, Text.digits?_toDigits id.val.toNat_lt,
    UInt64.ofNat_toNat]
  rfl

theorem idOfLine?_summary (t : TaskRecord) : idOfLine? t.summary = some t.id := by
  rw [← String.ofList_toList (s := t.summary), toList_summary, idOfLine?_opening]

/-- Whatever its state and what is on top of it, the first line of a task has its number. -/
theorem exists_line_of_id (t : TaskRecord) : ∃ line more, Text.lines t.summary = line :: more ∧ idOfLine? line = some t.id := by
  obtain ⟨rest, hrest⟩ : ∃ rest, t.summary.toList = opening t.id ++ rest := ⟨_, toList_summary t⟩
  obtain ⟨line, more, hlines⟩ := Text.exists_first_line (newline_not_mem_opening t.id) rest
  rw [← hrest, String.ofList_toList] at hlines
  exact ⟨_, more, hlines, idOfLine?_opening t.id line⟩

end TaskRecord

/-! ## The lines of a report -/

namespace Report

variable {r : Report}

theorem lines_text (hcompact : r.pretty = false) (hne : r.tasks ≠ []) :
    Text.lines r.text = r.tasks.flatMap fun t => Text.lines t.summary := by
  have hparts : r.tasks.map TaskRecord.summary ≠ [] := mt List.map_eq_nil_iff.mp hne
  rw [text, hcompact, if_neg Bool.false_ne_true, Text.lines_intercalate hparts, List.flatMap_map]

theorem length_flatMap_lines (tasks : List TaskRecord) :
    (tasks.flatMap fun t => Text.lines t.summary).length = tasks.length + (tasks.map TaskRecord.breaks).sum := by
  induction tasks with
  | nil => rfl
  | cons t tasks ih =>
    rw [List.flatMap_cons, List.length_append, Text.length_lines, t.count_summary, ih, List.length_cons, List.map_cons,
      List.sum_cons]
    omega

/-- The text of a report has a line for each task, and one more for each line break in the state or on top of a task. -/
theorem length_lines_text (hcompact : r.pretty = false) (hne : r.tasks ≠ []) :
    (Text.lines r.text).length = r.tasks.length + (r.tasks.map TaskRecord.breaks).sum := by
  rw [lines_text hcompact hne, length_flatMap_lines]

/-- There are as many lines as tasks exactly if no line break stands in a state or on top of a task. -/
theorem length_lines_text_eq_iff (hcompact : r.pretty = false) (hne : r.tasks ≠ []) :
    (Text.lines r.text).length = r.tasks.length ↔ ∀ t ∈ r.tasks, t.breaks = 0 := by
  rw [length_lines_text hcompact hne, Nat.add_eq_left, List.sum_eq_zero_iff_forall_eq_nat, List.forall_mem_map]

/-- The lines are the sentences on the tasks exactly if no line break stands in a state or on top of a task. -/
theorem lines_text_eq_iff (hcompact : r.pretty = false) (hne : r.tasks ≠ []) :
    Text.lines r.text = r.tasks.map TaskRecord.summary ↔ ∀ t ∈ r.tasks, t.breaks = 0 := by
  constructor
  · intro h
    rw [← length_lines_text_eq_iff hcompact hne, h, List.length_map]
  · intro h
    have hline : ∀ t ∈ r.tasks, Text.lines t.summary = [t.summary] := fun t ht =>
      Text.lines_of_not_mem (List.count_eq_zero.mp (t.count_summary.trans (h t ht)))
    rw [lines_text hcompact hne, List.flatMap_congr hline, List.map_eq_flatMap]

/-- The numbers of the tasks are read from lines of the text in their order, whatever other lines it has. -/
theorem ids_sublist_lines (hcompact : r.pretty = false) (hne : r.tasks ≠ []) :
    (r.tasks.map fun t => some t.id).Sublist ((Text.lines r.text).map TaskRecord.idOfLine?) := by
  rw [lines_text hcompact hne]
  induction r.tasks with
  | nil => exact List.Sublist.refl _
  | cons t tasks ih =>
    -- what a name or state adds to the lines stands behind the first one of its task
    obtain ⟨line, more, hlines, hid⟩ := t.exists_line_of_id
    rw [List.map_cons, List.flatMap_cons, hlines, List.cons_append, List.map_cons, hid, List.map_append]
    exact (ih.trans (List.sublist_append_right _ _)).cons_cons _

end Report

/-! ## Reports of what a check looks at -/

/-- What a check looks at. -/
inductive Watch where
  /-- A process directory, as it is at each snapshot; this thread of it checks, if one does. -/
  | directory (stages : Nat → ProcDirectory) (current : Option TaskId)
  /-- The tracker `m` after these acts, while others go on; the check is made on the thread `n`. -/
  | tracker (acts : List Act) (gaps : Nat → List Act) (n m : Nat)

/-- The source that answers a check. -/
def Watch.source : Watch → Source
  | directory stages current => ⟨fun index => (stages index).shot, current⟩
  | tracker acts gaps n m => (start.run acts).sourceAmid gaps n m

/-- The act puts no line break on top of a task or into its state. -/
def Act.Unbroken : Act → Prop
  | .call _ spawn entry _ => '\n' ∉ (spawn.name?.getD entry).toList
  | .enterState _ _ state => '\n' ∉ state.toList
  | _ => True

/-- No thread of a directory has a name with a line break, and no act puts one on top of a task or into its state. -/
def Watch.Unbroken : Watch → Prop
  | directory stages _ => ∀ index name comm, (stages index).threadFile name "comm" = .ok comm → '\n' ∉ (Text.trim comm).toList
  | tracker acts gaps _ _ => ∀ a, (a ∈ acts ∨ ∃ index, a ∈ gaps index) → a.Unbroken

/-- A thread has a line break on top of it if its name has one, and none in its state. -/
theorem ProcDirectory.breaks_of_thread {d : ProcDirectory} {name comm : String} {id : UInt64} {t : TaskRecord}
    (h : d.thread name id = .ok t) (hcomm : d.threadFile name "comm" = .ok comm) :
    t.breaks = (Text.trim comm).toList.count '\n' := by
  have hstates : ∀ state ∈ Stat.states, state.toList.count '\n' = 0 := by decide
  rw [TaskRecord.breaks, hstates t.state (state_mem_of_thread h), topFunction_of_thread h hcomm, Nat.zero_add]

namespace Tracking

variable {acts : List Act} {tracker : Nat} {t : TaskRecord}

/-- If no act brings a line break, no task of a tracker has one. -/
theorem breaks_of_unbroken (hacts : ∀ a ∈ acts, a.Unbroken) (ht : t ∈ ((start.run acts).registry tracker).records) :
    t.breaks = 0 := by
  have hown : ∀ state ∈ ownStates, '\n' ∉ state.toList := by decide
  rw [TaskRecord.breaks_eq_zero_iff]
  constructor
  · rcases explained_of_mem_records ht with hstate | ⟨w, n, g, hentered, -⟩
    · exact hown t.state hstate
    · exact hacts _ (mem_of_mem_moments hentered)
  · obtain ⟨spawn, entry, site, hcall, htop, -⟩ := exists_call_of_mem_records ht
    exact htop ▸ hacts _ hcall

end Tracking

theorem Watch.breaks_of_unbroken {watch : Watch} (hunbroken : watch.Unbroken) {index : Nat} {tasks : List TaskRecord}
    (houtcome : (watch.source.shot index).outcome = .ok tasks) : ∀ t ∈ tasks, t.breaks = 0 := by
  intro t ht
  cases watch with
  | directory stages current =>
    obtain ⟨-, name, -, -, hthread⟩ := ProcDirectory.thread_of_mem_shot houtcome ht
    obtain ⟨comm, -, hcomm, -⟩ := ProcDirectory.read_of_thread hthread
    rw [ProcDirectory.breaks_of_thread hthread hcomm, List.count_eq_zero]
    exact hunbroken index name comm hcomm
  | tracker acts gaps n m =>
    obtain rfl : (((start.run acts).amid gaps index).registry m).records = tasks := Except.ok.inj houtcome
    rw [Tracking.amid_run] at ht
    refine Tracking.breaks_of_unbroken (fun a ha => hunbroken a ?_) ht
    rcases List.mem_append.mp ha with ha | ha
    · exact Or.inl ha
    · obtain ⟨gap, -, hgap⟩ := List.mem_flatMap.mp ha
      exact Or.inr ⟨gap, hgap⟩

/-- Let a check on a process directory or a tracker give a report, and let no setting ask for a pretty one. Its text has a line for
each task, and one more for each line break in the state or on top of a task. The numbers of the tasks are read from lines of the
text, in their order, so that no task is hidden. The text has just one line for each task, and has as its lines the sentences on the
tasks, exactly if there is no such line break; and then the numbers read from the lines are those of the tasks. So it is if no thread
of the directory has a name with a line break, and if no thread is spawned on the tracker under such a name and no task enters such a
state. -/
theorem line_for_each_task_iff_unbroken (watch : Watch) (settings : List Setting) {r : Report}
    (hleaked : (find watch.source settings).value = .error (.leaked r)) (hcompact : settings.any Setting.isPretty = false) :
    let lines := Text.lines r.text
    lines.length = r.tasks.length + (r.tasks.map TaskRecord.breaks).sum ∧
    (r.tasks.map fun t => some t.id).Sublist (lines.map TaskRecord.idOfLine?) ∧
    (lines.length = r.tasks.length ↔ ∀ t ∈ r.tasks, t.breaks = 0) ∧
    (lines = r.tasks.map TaskRecord.summary ↔ ∀ t ∈ r.tasks, t.breaks = 0) ∧
    ((∀ t ∈ r.tasks, t.breaks = 0) → lines.map TaskRecord.idOfLine? = r.tasks.map fun t => some t.id) ∧
    (watch.Unbroken → ∀ t ∈ r.tasks, t.breaks = 0) := by
  intro lines
  obtain ⟨hne, hpretty, index, tasks, houtcome, hsublist, -⟩ := exists_shot_of_find_leaked hleaked
  rw [hcompact] at hpretty
  refine ⟨Report.length_lines_text hpretty hne, Report.ids_sublist_lines hpretty hne,
    Report.length_lines_text_eq_iff hpretty hne, Report.lines_text_eq_iff hpretty hne, fun hbreaks => ?_, fun hunbroken t ht => ?_⟩
  · have hlines : lines = r.tasks.map TaskRecord.summary := (Report.lines_text_eq_iff hpretty hne).mpr hbreaks
    simp only [hlines, List.map_map, Function.comp_def, TaskRecord.idOfLine?_summary]
  · exact Watch.breaks_of_unbroken hunbroken houtcome t (hsublist.subset ht)

/-! ## Names in reports -/

/-- A thread is spawned under a name. -/
def namedRun (name : String) : List Act :=
  [.call 1 (.thread (some name)) "app::work" "src/main.rs:7:5", .register ⟨1, ⟨1⟩⟩, .launch ⟨1, ⟨1⟩⟩ true]

/-- The record of the thread. -/
def namedThread (name : String) : TaskRecord :=
  .of ⟨1⟩ TaskState.running [.named name, .located "app::work" "src/main.rs:7:5", .named FunctionName.taskExit]

/-- The thread is spawned, and listed under its name, if this can be the name of a thread. -/
theorem run_namedRun {name : String} (hname : '\x00' ∉ name.toList) :
    ((start.run (namedRun name)).registry 1).records = [namedThread name] ∧ (start.run (namedRun name)).current? 0 1 = none := by
  have hframes : spawnFrames (some name) "app::work" "src/main.rs:7:5" =
      [.named name, .located "app::work" "src/main.rs:7:5", .named FunctionName.taskExit] :=
    spawnFrames_of_not_closure (by decide)
  let c : Call := ⟨⟨1, ⟨1⟩⟩, .thread (some name), spawnFrames (some name) "app::work" "src/main.rs:7:5"⟩
  let registered := start.run [.call 1 c.spawn "app::work" "src/main.rs:7:5", .register c.task]
  have hlaunches : registered.launches c true = true := congrArg Option.isNone (if_neg hname)
  have hrun : start.run (namedRun name) = { registered with launching := registered.launching.filter (·.task ≠ c.task) }.launched c :=
    Tracking.step_launch_succeeds rfl hlaunches
  rw [hrun, namedThread, ← hframes]
  exact ⟨rfl, rfl⟩

/-- Another thread that checks sees the thread under its name. -/
theorem source_namedRun {name : String} (hname : '\x00' ∉ name.toList) :
    (Watch.tracker (namedRun name) (fun _ => []) 0 1).source = .steady (.ofTasks [namedThread name]) none := by
  obtain ⟨hrecords, hcurrent⟩ := run_namedRun hname
  rw [Watch.source, Tracking.sourceAmid_rest, Tracking.source, Tracking.shot, hrecords, hcurrent]

/-- A thread with a plain name has its line. -/
theorem worker_has_line :
    (find (Watch.tracker (namedRun "worker") (fun _ => []) 0 1).source [.maxRetries 0]).value =
        .error (.leaked ⟨[namedThread "worker"], 1, false⟩) ∧
      [Setting.maxRetries 0].any Setting.isPretty = false ∧
      Text.lines (Report.text ⟨[namedThread "worker"], 1, false⟩) =
        ["Task#1 in state running, with worker on top of the stack"] := by
  have hleaked : (find (Watch.tracker (namedRun "worker") (fun _ => []) 0 1).source [.maxRetries 0]).value =
      .error (.leaked ⟨[namedThread "worker"], 1, false⟩) := by
    rw [source_namedRun (by decide)]
    cbv
  obtain ⟨-, -, -, hlines, -, hunbroken⟩ := line_for_each_task_iff_unbroken _ [.maxRetries 0] hleaked rfl
  refine ⟨hleaked, rfl, (hlines.mpr (hunbroken ?_)).trans (by decide)⟩
  rintro a (ha | ⟨index, ha⟩)
  · simp only [namedRun, List.mem_cons, List.not_mem_nil, or_false] at ha
    obtain rfl | rfl | rfl := ha
    · show '\n' ∉ "worker".toList
      decide
    · trivial
    · trivial
  · cases ha

/-- A name that reads on as the line of another task. -/
def forgingName : String := "idler on top of the stack\nTask#7 in state running, with db-writer"

/-- The report of one thread under such a name has two lines, and reads as one of two tasks. -/
theorem named_thread_writes_line_of_other :
    (find (Watch.tracker (namedRun forgingName) (fun _ => []) 0 1).source [.maxRetries 0]).value =
        .error (.leaked ⟨[namedThread forgingName], 1, false⟩) ∧
      [Setting.maxRetries 0].any Setting.isPretty = false ∧
      Text.lines (Report.text ⟨[namedThread forgingName], 1, false⟩) =
        ["Task#1 in state running, with idler on top of the stack", "Task#7 in state running, with db-writer on top of the stack"] ∧
      Report.text ⟨[namedThread forgingName], 1, false⟩ =
        Report.text ⟨[.of ⟨1⟩ TaskState.running [.named "idler"], .of ⟨7⟩ TaskState.running [.named "db-writer"]], 1, false⟩ := by
  refine ⟨?_, rfl, by cbv, by decide⟩
  rw [source_namedRun (by decide)]
  cbv

end Stragglers
