import Stragglers.Proofs.Proc.Threads

/-!
# Names that the kernel cuts

The kernel keeps the first bytes of the name of a thread and may cut a character in two. Then neither the file of the name nor
the status line is text, and a thread that is alive is skipped; a thread whose name is cut between two characters, or not at
all, is always recorded.
-/

namespace Stragglers.ProcDirectory

/-- How many bytes the kernel keeps of the name of a thread. -/
def keptBytes : Nat := 15

/-- The bytes that the kernel keeps of the name of a thread. -/
def kernelName (name : String) : ByteArray :=
  name.toUTF8.extract 0 keptBytes

/-- The kernel cuts no character of the name in two. -/
def KeptWhole (name : String) : Prop :=
  name.utf8ByteSize ≤ keptBytes ∨ (⟨keptBytes⟩ : String.Pos.Raw).IsValid name

/-- The directory shows a thread with this name under a number, as the kernel writes its files: the name with a line break, and
the status line with the number, the name in parentheses and the state letter. -/
structure Shows (d : ProcDirectory) (children : List (String × FileTree)) (dir name : String) (id : UInt64) (letter : Char)
    (rest : String) : Prop where
  lists : d.files.list ["task"] = .ok children
  listed : dir ∈ children.map (·.1)
  number : Text.unsigned? dir.toList = some id
  comm : d.files.at? ["task", dir, "comm"] = .ok (.file (kernelName name ++ "\n".toUTF8))
  stat : d.files.at? ["task", dir, "stat"] =
    .ok (.file ((toString id.toNat ++ " (").toUTF8 ++ kernelName name ++ (") " ++ String.singleton letter ++ rest).toUTF8))
  notBlank : Text.isBlank letter = false
  notClosed : ')' ∉ letter :: rest.toList

/-! ## Bytes that are text -/

/-- What stands before a text is text if both are together. -/
theorem isValidUTF8_of_append {a b : ByteArray} (hb : b.IsValidUTF8) (h : (a ++ b).IsValidUTF8) : a.IsValidUTF8 := by
  have hbyte : (String.ofByteArray (a ++ b) h).toByteArray = a ++ b := rfl
  have hsize : (String.ofByteArray (a ++ b) h).utf8ByteSize = a.size + b.size := by
    rw [← String.size_toByteArray, hbyte, ByteArray.size_append]
  have hpos : (⟨a.size⟩ : String.Pos.Raw).IsValid (String.ofByteArray (a ++ b) h) := by
    refine String.Pos.Raw.isValid_iff_isValidUTF8_extract_utf8ByteSize.mpr ⟨?_, ?_⟩
    · rw [String.Pos.Raw.le_iff, String.byteIdx_rawEndPos, hsize]
      exact Nat.le_add_right _ _
    · rw [hsize, hbyte, ByteArray.extract_append_eq_right rfl rfl]
      exact hb
  have hextract := (String.Pos.Raw.isValid_iff_isValidUTF8_extract_zero.mp hpos).2
  rwa [hbyte, ByteArray.extract_append_eq_left rfl] at hextract

/-- What the kernel keeps of a name is text exactly when no character is cut. -/
theorem isValidUTF8_kernelName_iff {name : String} : (kernelName name).IsValidUTF8 ↔ KeptWhole name := by
  rw [kernelName, KeptWhole, String.Pos.Raw.isValid_iff_isValidUTF8_extract_zero]
  by_cases hsize : name.utf8ByteSize ≤ keptBytes
  · have hwhole : name.toUTF8.extract 0 keptBytes = name.toByteArray := by
      have hmax : max keptBytes name.toByteArray.size = keptBytes := Nat.max_eq_left hsize
      rw [String.toUTF8_eq_toByteArray, ← hmax, ByteArray.extract_zero_max_size]
    rw [hwhole]
    exact ⟨fun _ => Or.inl hsize, fun _ => name.isValidUTF8⟩
  · have hle : (⟨keptBytes⟩ : String.Pos.Raw) ≤ name.rawEndPos := by
      rw [String.Pos.Raw.le_iff, String.byteIdx_rawEndPos]
      exact Nat.le_of_not_le hsize
    simp only [hsize, hle, true_and, false_or]
    rfl

/-- The bytes of a text are read as that text. -/
theorem fromUTF8?_toUTF8 (s : String) : String.fromUTF8? s.toUTF8 = some s := by
  rw [String.fromUTF8?, String.toUTF8_eq_toByteArray, dif_pos s.isValidUTF8]
  exact congrArg some (String.toByteArray_inj.mp rfl)

/-! ## The files of a thread -/

variable {d : ProcDirectory} {children : List (String × FileTree)} {dir name rest : String} {id : UInt64} {letter : Char}

/-- A file that holds a text is read as that text. -/
theorem threadFile_of_text {file s : String} (hfile : d.files.at? ["task", dir, file] = .ok (.file s.toUTF8)) :
    d.threadFile dir file = .ok s := by
  simp only [threadFile, FileTree.readText, hfile, fromUTF8?_toUTF8]

/-- A file that holds no text is not read. -/
theorem threadFile_of_notText {file : String} {content : ByteArray}
    (hfile : d.files.at? ["task", dir, file] = .ok (.file content)) (hcontent : ¬content.IsValidUTF8) :
    d.threadFile dir file = .error (.unread (Path.joinAll d.root ["task", dir, file]) .notText) := by
  simp only [threadFile, FileTree.readText, hfile, String.fromUTF8?, dif_neg hcontent]

/-- A thread whose name is not cut within a character is recorded under its number and the kept name. -/
theorem Shows.thread_of_keptWhole (h : d.Shows children dir name id letter rest) (hkept : KeptWhole name) :
    ∃ r kept, d.thread dir id = .ok r ∧ r.id = ⟨id⟩ ∧ kept.toUTF8 = kernelName name ∧
      r.topFunction = Text.trim (kept ++ "\n") := by
  have hvalid : (kernelName name).IsValidUTF8 := isValidUTF8_kernelName_iff.mpr hkept
  obtain ⟨kept, hbytes⟩ : ∃ kept : String, kept.toUTF8 = kernelName name :=
    ⟨String.fromUTF8 (kernelName name) hvalid, rfl⟩
  have hcomm : d.threadFile dir "comm" = .ok (kept ++ "\n") := by
    refine threadFile_of_text ?_
    rw [h.comm, ← hbytes]
    simp only [String.toUTF8_eq_toByteArray, String.toByteArray_append]
  have hstat : d.threadFile dir "stat" =
      .ok (toString id.toNat ++ " (" ++ kept ++ (") " ++ String.singleton letter ++ rest)) := by
    refine threadFile_of_text ?_
    rw [h.stat, ← hbytes]
    simp only [String.toUTF8_eq_toByteArray, String.toByteArray_append]
  have hline : (toString id.toNat ++ " (" ++ kept ++ (") " ++ String.singleton letter ++ rest)).toList =
      (toString id.toNat ++ " (" ++ kept).toList ++ ')' :: ([' '] ++ letter :: rest.toList) := by
    simp [String.toList_append]
  have hclosed : ')' ∉ [' '] ++ letter :: rest.toList := by
    rw [List.singleton_append, List.mem_cons, not_or]
    exact ⟨by decide, h.notClosed⟩
  have hblank : ∀ b ∈ [' '], Text.isBlank b = true := by
    intro b hb
    rw [List.mem_singleton.mp hb]
    decide
  have hletter := Stat.stateLetter_of_name hline hblank h.notBlank hclosed
  exact ⟨_, kept, thread_of_read id hcomm hstat hletter, rfl, hbytes, rfl⟩

/-- A thread whose name is cut within a character is not recorded. -/
theorem Shows.thread_of_not_keptWhole (h : d.Shows children dir name id letter rest) (hkept : ¬KeptWhole name) :
    d.thread dir id = .error (.unread (Path.joinAll d.root ["task", dir, "comm"]) .notText) := by
  refine thread_of_unread id (threadFile_of_notText h.comm fun hvalid => hkept ?_)
  have hbreak : ("\n".toUTF8).IsValidUTF8 := "\n".isValidUTF8
  exact isValidUTF8_kernelName_iff.mp (isValidUTF8_of_append hbreak hvalid)

theorem Shows.mem_numbered (h : d.Shows children dir name id letter rest) : (dir, id) ∈ numbered children :=
  ProcDirectory.mem_numbered.mpr ⟨h.listed, h.number⟩

/-- A number that only one name of the listing stands for has no record if the thread of this name cannot be read. -/
theorem id_ne_of_unread {records : List TaskRecord} {fault : ThreadFault}
    (hrecords : ∀ r, r ∈ records ↔ ∃ name i, (name, i) ∈ numbered children ∧ d.thread name i = .ok r)
    (hunread : d.thread dir id = .error fault)
    (honly : ∀ other ∈ children.map (·.1), Text.unsigned? other.toList = some id → other = dir) {r : TaskRecord}
    (hr : r ∈ records) : r.id ≠ ⟨id⟩ := by
  intro heq
  obtain ⟨other, i, hmem, hthread⟩ := (hrecords r).mp hr
  obtain rfl : i = id := congrArg TaskId.val ((id_of_thread hthread).symm.trans heq)
  obtain ⟨hlisted, hnumber⟩ := ProcDirectory.mem_numbered.mp hmem
  rw [honly other hlisted hnumber, hunread] at hthread
  cases hthread

/-! ## Which threads are recorded -/

/-- Of a thread that the directory shows with its name, a snapshot has a record if the kernel cut no character of the name in two,
whatever the files of other threads hold. Otherwise the thread is skipped, with a notice that its name is no text, and no record
has its number unless another name of the listing stands for it. -/
theorem snapshot_records_thread_iff_name_kept_whole (h : d.Shows children dir name id letter rest) :
    ∃ records, d.shot.outcome = .ok records ∧
      (KeptWhole name → ∃ r ∈ records, r.id = ⟨id⟩ ∧
        ∃ kept : String, kept.toUTF8 = kernelName name ∧ r.topFunction = Text.trim (kept ++ "\n")) ∧
      (¬KeptWhole name →
        .skipped id (.unread (Path.joinAll d.root ["task", dir, "comm"]) .notText) ∈ d.shot.notices ∧
        ((∀ other ∈ children.map (·.1), Text.unsigned? other.toList = some id → other = dir) →
          ∀ r ∈ records, r.id ≠ ⟨id⟩)) := by
  obtain ⟨records, houtcome, hrecords⟩ := exists_records h.lists
  refine ⟨records, houtcome, fun hkept => ?_, fun hkept => ⟨?_, fun honly r hr => ?_⟩⟩
  · obtain ⟨r, kept, hthread, hid, hbytes, htop⟩ := h.thread_of_keptWhole hkept
    exact ⟨r, (hrecords r).mpr ⟨dir, id, h.mem_numbered, hthread⟩, hid, kept, hbytes, htop⟩
  · exact (mem_notices h.lists).mpr ⟨dir, h.mem_numbered, h.thread_of_not_keptWhole hkept⟩
  · exact id_ne_of_unread hrecords (h.thread_of_not_keptWhole hkept) honly hr

/-- The entry of a listing for thread 5 with this name, which sleeps. -/
def sleeper (name : String) : String × FileTree :=
  ("5", .directory [
    ("comm", .file (kernelName name ++ "\n".toUTF8)),
    ("stat", .file ((toString (5 : UInt64).toNat ++ " (").toUTF8 ++ kernelName name ++
      (") " ++ String.singleton 'S' ++ " 1 5 5 0 -1").toUTF8)),
    ("wchan", .file "0".toUTF8)])

/-- The directory of a process that has only this thread. -/
def sleeping (name : String) : ProcDirectory where
  root := "/proc/100"
  files := .directory [("stat", .file "100 (app) S 1 100 100 0 -1".toUTF8), ("task", .directory [sleeper name])]
  selfLink := none

theorem shows_sleeping (name : String) : (sleeping name).Shows [sleeper name] "5" name 5 'S' " 1 5 5 0 -1" where
  lists := rfl
  listed := List.mem_singleton.mpr rfl
  number := by decide
  comm := rfl
  stat := rfl
  notBlank := by decide
  notClosed := by decide

theorem ascii_name_recorded :
    (sleeping "resident-worker-1").Shows [sleeper "resident-worker-1"] "5" "resident-worker-1" 5 'S' " 1 5 5 0 -1" ∧
      ∃ records, (sleeping "resident-worker-1").shot.outcome = .ok records ∧ ∃ r ∈ records, r.id = ⟨5⟩ := by
  obtain ⟨records, houtcome, hkept, -⟩ := snapshot_records_thread_iff_name_kept_whole (shows_sleeping "resident-worker-1")
  obtain ⟨r, hr, hid, -⟩ := hkept (Or.inr (by decide))
  exact ⟨shows_sleeping _, records, houtcome, r, hr, hid⟩

/-- Of the sixteen bytes of this name the kernel keeps fifteen, and the last character is cut. -/
theorem greek_name_not_recorded :
    (sleeping "αααααααα").Shows [sleeper "αααααααα"] "5" "αααααααα" 5 'S' " 1 5 5 0 -1" ∧
      ∃ records, (sleeping "αααααααα").shot.outcome = .ok records ∧ ∀ r ∈ records, r.id ≠ ⟨5⟩ := by
  have hshows := shows_sleeping "αααααααα"
  have hcut : ¬KeptWhole "αααααααα" := by
    rintro (hsize | hpos)
    · exact absurd hsize (by decide)
    · exact absurd hpos (by decide)
  obtain ⟨records, houtcome, hrecords⟩ := exists_records hshows.lists
  refine ⟨hshows, records, houtcome, fun r hr => id_ne_of_unread hrecords (hshows.thread_of_not_keptWhole hcut) ?_ hr⟩
  intro other hother _
  exact List.mem_singleton.mp hother

end Stragglers.ProcDirectory
