import Stragglers.Setting
import Stragglers.Proofs.Proc.ThreadName

/-!
# Numbers that are used again

The kernel gives each live thread a directory whose name is its number. When the thread exits the directory disappears, and the
kernel may give the number to a thread that starts later. The rule for the threads recorded at one moment matches by number: of
the threads that started later it matches those whose number a recorded thread had, and each such thread has exited before
(`exits_of_starts`).
-/

namespace Stragglers

/-! ## Listings -/

namespace FileTree

variable {t : FileTree} {children : List (String × FileTree)} {dir name other : String}

/-- What is put under a name lies under it. -/
theorem lookup_replaceChild_self (name : String) (new : FileTree) (children : List (String × FileTree)) :
    (replaceChild name (some new) children).lookup name = some new := by
  induction children with
  | nil => simp [replaceChild]
  | cons c children ih =>
    obtain ⟨n, t⟩ := c
    rw [replaceChild]
    split
    · simp
    · rename_i hn
      have hskip : (name == n) = false := beq_false_of_ne (Ne.symm hn)
      rw [List.lookup_cons, hskip]
      exact ih

theorem mem_replaceChild_self (name : String) (new : FileTree) (children : List (String × FileTree)) :
    name ∈ (replaceChild name (some new) children).map (·.1) := by
  obtain ⟨before, behind, hsplit, -⟩ := List.lookup_eq_some_iff.mp (lookup_replaceChild_self name new children)
  rw [hsplit]
  simp

/-- The other names stay. -/
theorem mem_replaceChild_other (hother : other ≠ name) (new : Option FileTree) :
    other ∈ (replaceChild name new children).map (·.1) ↔ other ∈ children.map (·.1) := by
  have hnew : other ∉ ((new.map (name, ·)).toList).map (·.1) := by
    cases new with
    | none => exact List.not_mem_nil
    | some new => exact fun hmem => hother (List.mem_singleton.mp hmem)
  induction children with
  | nil => exact iff_of_false hnew List.not_mem_nil
  | cons c children ih =>
    obtain ⟨n, t⟩ := c
    rw [replaceChild]
    split
    · rename_i hn
      rw [List.map_append, List.mem_append, List.map_cons, List.mem_cons, hn, or_iff_right hnew, or_iff_right hother]
    · rw [List.map_cons, List.map_cons, List.mem_cons, List.mem_cons]
      exact or_congr_right ih

/-- What is listed lies under its name in a directory. -/
theorem exists_of_list (h : t.list [dir] = .ok children) :
    ∃ top, t = .directory top ∧ top.lookup dir = some (.directory children) := by
  cases t with
  | file content => cases h
  | directory top =>
    rw [list, at?] at h
    cases hdir : top.lookup dir with
    | none =>
      rw [hdir] at h
      cases h
    | some found =>
      rw [hdir] at h
      cases found with
      | file content => cases h
      | directory lower =>
        cases h
        exact ⟨top, rfl, hdir⟩

/-- What is put into a directory stands in its listing. -/
theorem list_put (new : FileTree) (name : String) (h : t.list [dir] = .ok children) :
    (put new t [dir, name]).list [dir] = .ok (replaceChild name (some new) children) := by
  obtain ⟨top, rfl, hdir⟩ := exists_of_list h
  simp only [put, hdir, Option.getD_some, list, at?, lookup_replaceChild_self]

/-- What is removed from a directory is taken out of its listing. -/
theorem list_remove (name : String) (h : t.list [dir] = .ok children) :
    (t.remove [dir, name]).list [dir] = .ok (replaceChild name none children) := by
  obtain ⟨top, rfl, hdir⟩ := exists_of_list h
  simp only [remove, hdir, list, at?, lookup_replaceChild_self]

end FileTree

/-! ## Threads that start and exit -/

/-- What happens to a thread of a process. -/
inductive ThreadEvent where
  /-- A thread starts, and a directory with its files appears. -/
  | starts (id : UInt64) (files : FileTree)
  /-- The files of a live thread change. -/
  | changes (id : UInt64) (files : FileTree)
  /-- A thread exits, and its directory disappears. -/
  | exits (id : UInt64)

namespace ThreadEvent

/-- The number of the thread. -/
def id : ThreadEvent → UInt64
  | .starts id _ | .changes id _ | .exits id => id

/-- What lies in the directory of the thread afterwards, if there is one. -/
def files? : ThreadEvent → Option FileTree
  | .starts _ files | .changes _ files => some files
  | .exits _ => none

end ThreadEvent

namespace ProcDirectory

/-- The name of the directory of a thread. -/
def dirName (id : UInt64) : String :=
  toString id.toNat

/-- The directory with other files of one thread, or without the thread. -/
def withThread (d : ProcDirectory) (name : String) (new : Option FileTree) : ProcDirectory :=
  match new with
  | some files => { d with files := .put files d.files ["task", name] }
  | none => { d with files := d.files.remove ["task", name] }

/-- The process directory after an event. -/
def after (d : ProcDirectory) (e : ThreadEvent) : ProcDirectory :=
  let path := ["task", dirName e.id]
  match e.files? with
  | some files => { d with files := .put files d.files path }
  | none => { d with files := d.files.remove path }

/-- The process directory after one event and the next. -/
def afterAll (d : ProcDirectory) (events : List ThreadEvent) : ProcDirectory :=
  events.foldl after d

/-- A live thread has this number. -/
def Alive (d : ProcDirectory) (id : UInt64) : Prop :=
  ∃ children, d.files.list ["task"] = .ok children ∧ dirName id ∈ children.map (·.1)

/-- What the kernel lets happen: a thread starts under a number that no live thread has. -/
def Allows (d : ProcDirectory) : ThreadEvent → Prop
  | .starts id _ => ¬d.Alive id
  | .changes id _ | .exits id => d.Alive id

/-- The kernel lets one event happen after the other. -/
def History (d : ProcDirectory) : List ThreadEvent → Prop
  | [] => True
  | e :: events => d.Allows e ∧ (d.after e).History events

/-- The threads can be listed, and a name that is a number is written as the kernel writes it. -/
def ListsThreads (d : ProcDirectory) : Prop :=
  ∃ children, d.files.list ["task"] = .ok children ∧
    ∀ name ∈ children.map (·.1), ∀ id, Text.unsigned? name.toList = some id → name = dirName id

variable {d : ProcDirectory} {e : ThreadEvent} {id i : UInt64} {children : List (String × FileTree)}

theorem unsigned?_dirName (id : UInt64) : Text.unsigned? (dirName id).toList = some id := by
  rw [dirName, Text.unsigned?_toString id.toNat_lt, UInt64.ofNat_toNat]

/-- Two threads have different directories. -/
theorem dirName_ne (h : i ≠ id) : dirName i ≠ dirName id := by
  intro heq
  have hnumber := unsigned?_dirName i
  rw [heq, unsigned?_dirName] at hnumber
  exact h (Option.some.inj hnumber).symm

theorem list_withThread (h : d.files.list ["task"] = .ok children) (name : String) (new : Option FileTree) :
    (d.withThread name new).files.list ["task"] = .ok (FileTree.replaceChild name new children) := by
  cases new with
  | some files => exact FileTree.list_put files _ h
  | none => exact FileTree.list_remove _ h

theorem list_after (h : d.files.list ["task"] = .ok children) (e : ThreadEvent) :
    (d.after e).files.list ["task"] = .ok (FileTree.replaceChild (dirName e.id) e.files? children) := by
  have hafter : d.after e = d.withThread (dirName e.id) e.files? := by cases e <;> rfl
  rw [hafter]
  exact list_withThread h _ _

/-- An event leaves the threads listed as the kernel lists them. -/
theorem ListsThreads.after (h : d.ListsThreads) (e : ThreadEvent) : (d.after e).ListsThreads := by
  obtain ⟨children, hlist, hwritten⟩ := h
  refine ⟨_, list_after hlist e, fun name hmem id hnumber => ?_⟩
  by_cases hname : name = dirName e.id
  · subst hname
    rw [unsigned?_dirName] at hnumber
    rw [Option.some.inj hnumber]
  · exact hwritten name ((FileTree.mem_replaceChild_other hname _).mp hmem) id hnumber

theorem ListsThreads.afterAll (h : d.ListsThreads) (events : List ThreadEvent) : (d.afterAll events).ListsThreads := by
  induction events generalizing d with
  | nil => exact h
  | cons e events ih => exact ih (h.after e)

/-- A live thread stays alive through every event but its exit. -/
theorem Alive.after (h : d.Alive id) (he : e ≠ .exits id) : (d.after e).Alive id := by
  obtain ⟨children, hlist, hmem⟩ := h
  refine ⟨_, list_after hlist e, ?_⟩
  by_cases hid : id = e.id
  · subst hid
    cases e with
    | starts | changes => exact FileTree.mem_replaceChild_self _ _ _
    | exits => exact absurd rfl he
  · exact (FileTree.mem_replaceChild_other (dirName_ne hid) _).mpr hmem

theorem Alive.afterAll {events : List ThreadEvent} (h : d.Alive id) (hexits : .exits id ∉ events) :
    (d.afterAll events).Alive id := by
  induction events generalizing d with
  | nil => exact h
  | cons e events ih =>
    rw [List.mem_cons, not_or] at hexits
    obtain ⟨he, hexits⟩ := hexits
    exact ih (h.after (Ne.symm he)) hexits

theorem history_append {events events' : List ThreadEvent} :
    d.History (events ++ events') ↔ d.History events ∧ (d.afterAll events).History events' := by
  induction events generalizing d with
  | nil => exact (iff_of_eq (true_and _)).symm
  | cons e events ih =>
    rw [List.cons_append, History, History, ih, and_assoc]
    rfl

/-- Before a thread starts under the number of a live thread, this one exits. -/
theorem exits_of_starts {before rest : List ThreadEvent} {files : FileTree}
    (hhistory : d.History (before ++ .starts id files :: rest)) (halive : d.Alive id) : .exits id ∈ before := by
  refine Classical.byContradiction fun hexits => ?_
  obtain ⟨-, hfree, -⟩ := history_append.mp hhistory
  exact hfree (halive.afterAll hexits)

/-- A snapshot can be taken, and what it records is alive. -/
theorem ListsThreads.exists_records (h : d.ListsThreads) :
    ∃ records, d.shot.outcome = .ok records ∧ ∀ r ∈ records, d.Alive r.id.val := by
  obtain ⟨children, hlist, hwritten⟩ := h
  obtain ⟨records, houtcome, hrecords⟩ := ProcDirectory.exists_records hlist
  refine ⟨records, houtcome, fun r hr => ⟨children, hlist, ?_⟩⟩
  obtain ⟨name, id, hnumbered, hthread⟩ := (hrecords r).mp hr
  obtain ⟨hmem, hnumber⟩ := mem_numbered.mp hnumbered
  rw [id_of_thread hthread]
  exact hwritten name hmem id hnumber ▸ hmem

/-! ## The rule for the threads recorded at a moment -/

/-- Along every history of threads that start and exit, the rule for the threads of a snapshot can be made at any moment. Of the
threads recorded later it matches those whose number had a record at that moment. If a thread that it matches has started since,
then the number is used again: the thread that had it at that moment exited before. -/
theorem baseline_matches_numbers_recorded_at_capture (h : d.ListsThreads) (events : List ThreadEvent) :
    ∃ rule recorded, (d.afterAll events).shot.outcome = .ok recorded ∧
      (Setting.ignoreCurrent (d.afterAll events).shot).value = .ok (.rule rule) ∧
      ∀ later, d.History (events ++ later) → ∃ records, (d.afterAll (events ++ later)).shot.outcome = .ok records ∧
        ∀ r ∈ records, (rule.holds r = true ↔ ∃ o ∈ recorded, o.id = r.id) ∧
          ∀ before files rest, later = before ++ .starts r.id.val files :: rest → rule.holds r = true →
            .exits r.id.val ∈ before := by
  obtain ⟨recorded, hcapture, halive⟩ := (h.afterAll events).exists_records
  refine ⟨_, recorded, hcapture, Setting.value_ignoreCurrent hcapture, fun later hhistory => ?_⟩
  obtain ⟨records, houtcome, -⟩ := (h.afterAll (events ++ later)).exists_records
  have hholds : ∀ r, (Rule.ofIds (recorded.map (·.id))).holds r = true ↔ ∃ o ∈ recorded, o.id = r.id :=
    fun r => Rule.holds_ofIds.trans List.mem_map
  refine ⟨records, houtcome, fun r _ => ⟨hholds r, ?_⟩⟩
  rintro before files rest rfl hmatched
  obtain ⟨o, ho, hid⟩ := (hholds r).mp hmatched
  exact exits_of_starts (history_append.mp hhistory).2 (hid ▸ halive o ho)

/-- The directory of a thread 6 that sleeps. -/
def lateFiles : FileTree :=
  .directory [("comm", .file "late\n".toUTF8), ("stat", .file "6 (late) S 1 6 6 0 -1".toUTF8), ("wchan", .file "0".toUTF8)]

theorem listsThreads_sleeping (name : String) : (sleeping name).ListsThreads := by
  refine ⟨[sleeper name], rfl, fun dir hdir id hnumber => ?_⟩
  obtain rfl : dir = "5" := List.mem_singleton.mp hdir
  obtain rfl : 5 = id := Option.some.inj ((show Text.unsigned? "5".toList = some 5 by decide).symm.trans hnumber)
  rfl

theorem late_thread_not_expected :
    (sleeping "resident").ListsThreads ∧ (sleeping "resident").History [.starts 6 lateFiles] ∧
      ∃ rule, (Setting.ignoreCurrent (sleeping "resident").shot).value = .ok (.rule rule) ∧
        ∃ records, ((sleeping "resident").afterAll [.starts 6 lateFiles]).shot.outcome = .ok records ∧
          ∃ r ∈ records, r.id = ⟨6⟩ ∧ rule.holds r = false := by
  have hlists := listsThreads_sleeping "resident"
  have hhistory : (sleeping "resident").History [.starts 6 lateFiles] := by
    refine ⟨?_, trivial⟩
    rintro ⟨children, hlist, hmem⟩
    cases hlist
    exact absurd (List.mem_singleton.mp hmem) (by decide)
  obtain ⟨rule, recorded, -, hrule, hlater⟩ := baseline_matches_numbers_recorded_at_capture hlists []
  obtain ⟨records, houtcome, hexact⟩ := hlater [.starts 6 lateFiles] hhistory
  -- the thread that has started is recorded
  have hlist : ((sleeping "resident").afterAll [.starts 6 lateFiles]).files.list ["task"] =
      .ok [sleeper "resident", ("6", lateFiles)] := rfl
  have hcomm : ((sleeping "resident").afterAll [.starts 6 lateFiles]).threadFile "6" "comm" = .ok "late\n" :=
    threadFile_of_text rfl
  have hstat : ((sleeping "resident").afterAll [.starts 6 lateFiles]).threadFile "6" "stat" = .ok "6 (late) S 1 6 6 0 -1" :=
    threadFile_of_text rfl
  have hthread := thread_of_read 6 hcomm hstat (show Stat.stateLetter "6 (late) S 1 6 6 0 -1" = .ok 'S' from rfl)
  obtain ⟨found, hfound, hrecords⟩ := ProcDirectory.exists_records hlist
  obtain rfl : found = records := Except.ok.inj (hfound.symm.trans houtcome)
  have hr := (hrecords _).mpr ⟨"6", 6, ProcDirectory.mem_numbered.mpr ⟨by decide, by decide⟩, hthread⟩
  refine ⟨hlists, hhistory, rule, hrule, found, hfound, _, hr, rfl, Bool.eq_false_iff.mpr fun hmatched => ?_⟩
  exact List.not_mem_nil ((hexact _ hr).2 [] lateFiles [] rfl hmatched)

/-- The only thread of this process is recorded if its name is not cut. -/
theorem exists_record_sleeping {name : String} (hkept : KeptWhole name) :
    ∃ records, (sleeping name).shot.outcome = .ok records ∧ ∃ r ∈ records, r.id = ⟨5⟩ := by
  have hshows := shows_sleeping name
  obtain ⟨records, houtcome, hrecords⟩ := ProcDirectory.exists_records hshows.lists
  obtain ⟨r, -, hthread, hid, -⟩ := hshows.thread_of_keptWhole hkept
  exact ⟨records, houtcome, r, (hrecords r).mpr ⟨"5", 5, hshows.mem_numbered, hthread⟩, hid⟩

/-- The thread that was alive exits, and another one starts under its number and is matched. -/
theorem reused_number_expected :
    (sleeping "old").ListsThreads ∧ (sleeping "old").History [.exits 5, .starts 5 (sleeper "new").2] ∧
      ∃ rule, (Setting.ignoreCurrent (sleeping "old").shot).value = .ok (.rule rule) ∧
        ∃ records, ((sleeping "old").afterAll [.exits 5, .starts 5 (sleeper "new").2]).shot.outcome = .ok records ∧
          ∃ r ∈ records, r.id = ⟨5⟩ ∧ rule.holds r = true := by
  have hhistory : (sleeping "old").History [.exits 5, .starts 5 (sleeper "new").2] := by
    refine ⟨⟨_, rfl, List.mem_singleton.mpr rfl⟩, ?_, trivial⟩
    rintro ⟨children, hlist, hmem⟩
    cases hlist
    cases hmem
  have hafter : (sleeping "old").afterAll [.exits 5, .starts 5 (sleeper "new").2] = sleeping "new" := rfl
  obtain ⟨recorded, hcapture, o, ho, hold⟩ := exists_record_sleeping (Or.inl (by decide) : KeptWhole "old")
  obtain ⟨records, houtcome, r, hr, hid⟩ := exists_record_sleeping (Or.inl (by decide) : KeptWhole "new")
  rw [hafter]
  refine ⟨listsThreads_sleeping "old", hhistory, _, Setting.value_ignoreCurrent hcapture, records, houtcome, r, hr, hid, ?_⟩
  rw [Rule.holds_ofIds, hid, ← hold]
  exact List.mem_map_of_mem ho

end ProcDirectory

end Stragglers
