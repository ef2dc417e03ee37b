import Stragglers.Proc.Threads

/-!
# Threads read and threads skipped

A snapshot of a process directory has a record for each name of the listing that is a number and whose files can be read
(`exists_records`), and a notice for each other number (`mem_notices`). A status line gives its letter whatever stands in its
name (`stateLetter_of_name`).
-/

namespace Stragglers

/-! ## Status lines -/

namespace Stat

variable {cs before rest : List Char} {found : Option (List Char)}

/-- Without a closing parenthesis nothing new is found. -/
theorem afterName_of_not_mem (h : ')' ∉ cs) : afterName found cs = found := by
  induction cs generalizing found with
  | nil => rfl
  | cons c cs ih =>
    rw [List.mem_cons, not_or] at h
    obtain ⟨hc, hcs⟩ := h
    rw [afterName, if_neg (Ne.symm hc), ih hcs]

/-- What follows the last closing parenthesis is found, whatever stands before it. -/
theorem afterName_append (h : ')' ∉ rest) : afterName found (before ++ ')' :: rest) = some rest := by
  induction before generalizing found with
  | nil => rw [List.nil_append, afterName, if_pos rfl, afterName_of_not_mem h]
  | cons c before ih => rw [List.cons_append, afterName, ih]

/-- Leading blanks are trimmed up to a character that is not blank. -/
theorem trimStart_append {blanks : List Char} {c : Char} (hblanks : ∀ b ∈ blanks, Text.isBlank b = true)
    (hc : Text.isBlank c = false) : Text.trimStart (blanks ++ c :: rest) = c :: rest := by
  induction blanks with
  | nil => rw [List.nil_append, Text.trimStart, List.dropWhile_cons, if_neg (by rw [hc]; exact Bool.false_ne_true)]
  | cons b blanks ih =>
    rw [List.forall_mem_cons] at hblanks
    rw [List.cons_append, Text.trimStart, List.dropWhile_cons, if_pos hblanks.1]
    exact ih hblanks.2

/-- The letter of a status line is the first character that is not blank behind the last closing parenthesis. -/
theorem stateLetter_of_name {line : String} {blanks : List Char} {letter : Char}
    (hline : line.toList = before ++ ')' :: (blanks ++ letter :: rest)) (hblanks : ∀ b ∈ blanks, Text.isBlank b = true)
    (hletter : Text.isBlank letter = false) (hclosed : ')' ∉ blanks ++ letter :: rest) :
    stateLetter line = .ok letter := by
  rw [stateLetter, hline, afterName_append hclosed]
  simp only [trimStart_append hblanks hletter]

end Stat

/-! ## Threads -/

namespace ProcDirectory

variable {d : ProcDirectory} {name : String} {id : UInt64}

/-- The record of a thread whose files can be read and whose status line has a letter. -/
theorem thread_of_read {comm line : String} {letter : Char} (id : UInt64) (hcomm : d.threadFile name "comm" = .ok comm)
    (hstat : d.threadFile name "stat" = .ok line) (hletter : Stat.stateLetter line = .ok letter) :
    d.thread name id =
      .ok (TaskRecord.of ⟨id⟩ (Stat.threadState letter (d.waitChannel? name))
        (threadFrames (Text.trim comm) (d.waitChannel? name) (d.pid? == some id))) := by
  simp only [thread, hcomm, hstat, bind, Except.bind, hletter]
  rfl

/-- A thread without a readable name is not recorded. -/
theorem thread_of_unread {fault : ThreadFault} (id : UInt64) (hcomm : d.threadFile name "comm" = .error fault) :
    d.thread name id = .error fault := by
  simp only [thread, hcomm]
  rfl

/-- A thread that is recorded has a name and a status line with a letter that can be read, and its record is the one that they
give. -/
theorem lines_of_thread {r : TaskRecord} (h : d.thread name id = .ok r) :
    ∃ comm line letter, d.threadFile name "comm" = .ok comm ∧ d.threadFile name "stat" = .ok line ∧
      Stat.stateLetter line = .ok letter ∧
      r = TaskRecord.of ⟨id⟩ (Stat.threadState letter (d.waitChannel? name))
        (threadFrames (Text.trim comm) (d.waitChannel? name) (d.pid? == some id)) := by
  simp only [thread, bind, Except.bind, pure, Except.pure] at h
  split at h
  · cases h
  · rename_i comm hcomm
    split at h
    · cases h
    · rename_i line hline
      split at h
      · cases h
      · rename_i letter hletter
        exact ⟨comm, line, letter, hcomm, hline, hletter, (Except.ok.inj h).symm⟩

/-- A thread that is recorded has a name and a state letter, and its record is the one that they give. -/
theorem read_of_thread {r : TaskRecord} (h : d.thread name id = .ok r) :
    ∃ comm letter, d.threadFile name "comm" = .ok comm ∧
      r = TaskRecord.of ⟨id⟩ (Stat.threadState letter (d.waitChannel? name))
        (threadFrames (Text.trim comm) (d.waitChannel? name) (d.pid? == some id)) := by
  obtain ⟨comm, line, letter, hcomm, -, -, hr⟩ := lines_of_thread h
  exact ⟨comm, letter, hcomm, hr⟩

/-- A thread is recorded under its number. -/
theorem id_of_thread {r : TaskRecord} (h : d.thread name id = .ok r) : r.id = ⟨id⟩ := by
  obtain ⟨comm, letter, -, rfl⟩ := read_of_thread h
  rfl

/-- A name of a listing stands for a number if it is read as that number. -/
theorem mem_numbered {children : List (String × FileTree)} :
    (name, id) ∈ numbered children ↔ name ∈ children.map (·.1) ∧ Text.unsigned? name.toList = some id := by
  simp only [numbered, List.mem_filterMap, Option.map_eq_some_iff, Prod.mk.injEq, List.mem_map]
  constructor
  · rintro ⟨child, hchild, id', hid, rfl, rfl⟩
    exact ⟨⟨child, hchild, rfl⟩, hid⟩
  · rintro ⟨⟨child, hchild, rfl⟩, hid⟩
    exact ⟨child, hchild, id, hid, rfl, rfl⟩

/-! ## Snapshots -/

section snapshot

variable {children : List (String × FileTree)}

theorem eq_ok_of_toOption {x : Except ThreadFault TaskRecord} {r : TaskRecord} (h : x.toOption = some r) : x = .ok r := by
  cases x with
  | ok _ => exact congrArg Except.ok (Option.some.inj h)
  | error _ => cases h

/-- A snapshot has the threads of the listing that can be read. -/
theorem exists_records (hlist : d.files.list ["task"] = .ok children) :
    ∃ records, d.shot.outcome = .ok records ∧
      ∀ r, r ∈ records ↔ ∃ name id, (name, id) ∈ numbered children ∧ d.thread name id = .ok r := by
  refine ⟨((d.threads children).filterMap fun t => t.2.toOption).mergeSort idLE, ?_, fun r => ?_⟩
  · simp only [shot, hlist]
  · simp only [List.mem_mergeSort, List.mem_filterMap, threads, List.mem_map, Prod.exists]
    constructor
    · rintro ⟨i, t, ⟨name, id, hmem, heq⟩, hr⟩
      cases heq
      exact ⟨name, _, hmem, eq_ok_of_toOption hr⟩
    · rintro ⟨name, id, hmem, hthread⟩
      exact ⟨id, _, ⟨name, id, hmem, rfl⟩, by rw [hthread]; rfl⟩

/-- A record in a snapshot is that of a name of the listing. -/
theorem thread_of_mem_shot {records : List TaskRecord} (houtcome : d.shot.outcome = .ok records) {r : TaskRecord}
    (hr : r ∈ records) :
    ∃ children name, d.files.list ["task"] = .ok children ∧ (name, r.id.val) ∈ numbered children ∧
      d.thread name r.id.val = .ok r := by
  cases hlist : d.files.list ["task"] with
  | error cause =>
    simp only [shot, hlist] at houtcome
    cases houtcome
  | ok children =>
    obtain ⟨records', houtcome', hrecords⟩ := exists_records hlist
    obtain rfl : records' = records := Except.ok.inj (houtcome'.symm.trans houtcome)
    obtain ⟨name, id, hmem, hthread⟩ := (hrecords r).mp hr
    obtain rfl : r.id.val = id := congrArg TaskId.val (id_of_thread hthread)
    exact ⟨children, name, rfl, hmem, hthread⟩

/-- A snapshot tells of the threads of the listing that cannot be read. -/
theorem mem_notices (hlist : d.files.list ["task"] = .ok children) {fault : ThreadFault} :
    .skipped id fault ∈ d.shot.notices ↔ ∃ name, (name, id) ∈ numbered children ∧ d.thread name id = .error fault := by
  simp only [shot, hlist, List.mem_filterMap, threads, List.mem_map, Prod.exists]
  constructor
  · rintro ⟨i, t, ⟨name, id', hmem, heq⟩, hnotice⟩
    cases heq
    cases hthread : d.thread name i with
    | ok r =>
      rw [hthread] at hnotice
      cases hnotice
    | error e =>
      rw [hthread] at hnotice
      cases hnotice
      exact ⟨name, hmem, hthread⟩
  · rintro ⟨name, hmem, hthread⟩
    exact ⟨id, _, ⟨name, id, hmem, rfl⟩, by rw [hthread]⟩

end snapshot

end ProcDirectory

end Stragglers
