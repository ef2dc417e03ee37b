import Stragglers.Proofs.Proc.Reading

/-!
# The letter behind any name

A status line is searched for its last closing parenthesis, and the letter is the first character behind it that is not blank
(`stateLetter_eq_ok_iff`), so that the name of the thread may hold whatever it wants. The search may as well go by the bytes of the
line and cut it one byte behind the last one that is a closing parenthesis: no character but this one has such a byte, so the cut is
always between two characters (`letterByBytes?_eq`).
-/

namespace Stragglers.Stat

variable {cs behind : List Char} {found : Option (List Char)} {line : String} {c : Char}

/-! ## The last closing parenthesis -/

theorem afterName_eq_none_iff : afterName found cs = none ↔ ')' ∉ cs ∧ found = none := by
  induction cs generalizing found with
  | nil => simp [afterName]
  | cons c cs ih =>
    rw [afterName, ih, List.mem_cons, not_or]
    by_cases hc : c = ')'
    · simp [hc]
    · simp [hc, Ne.symm hc]

theorem afterName_eq_some_iff : afterName none cs = some behind ↔ ∃ before, cs = before ++ ')' :: behind ∧ ')' ∉ behind := by
  constructor
  · intro h
    exact (exists_of_afterName h).resolve_right fun hnone => by cases hnone.2
  · rintro ⟨before, rfl, hlast⟩
    exact afterName_append hlast

/-- The first character that is not blank. -/
def firstLetter (cs : List Char) : Except ThreadFault Char :=
  match Text.trimStart cs with
  | [] => .error .noState
  | c :: _ => .ok c

/-- The letter is looked for behind the last closing parenthesis. -/
theorem stateLetter_of_afterName (h : afterName none line.toList = some behind) : stateLetter line = firstLetter behind := by
  simp only [stateLetter, h]
  rfl

theorem stateLetter_of_not_mem (h : ')' ∉ line.toList) : stateLetter line = .error .noName := by
  simp only [stateLetter, afterName_of_not_mem h]

theorem firstLetter_eq_error_iff {fault : ThreadFault} :
    firstLetter cs = .error fault ↔ fault = .noState ∧ ∀ c ∈ cs, Text.isBlank c = true := by
  rw [← Text.trimStart_eq_nil_iff, firstLetter]
  cases Text.trimStart cs with
  | nil => simp [eq_comm]
  | cons c rest => simp

/-- All behind the last closing parenthesis is blank. -/
def BlankBehindName (line : String) : Prop :=
  ∃ before blanks, line.toList = before ++ ')' :: blanks ∧ ∀ b ∈ blanks, Text.isBlank b = true

/-- A parenthesis with only blanks behind it is the last one. -/
theorem afterName_of_blanks {before blanks : List Char} (hblanks : ∀ b ∈ blanks, Text.isBlank b = true) :
    afterName none (before ++ ')' :: blanks) = some blanks := by
  have hclose : Text.isBlank ')' = false := by decide
  refine afterName_append fun hmem => ?_
  rw [hblanks _ hmem] at hclose
  cases hclose

/-- A line without a closing parenthesis has no name, and one in which all behind the last is blank has no state; there is no other
fault. -/
theorem stateLetter_eq_error_iff {fault : ThreadFault} :
    stateLetter line = .error fault ↔
      fault = .noName ∧ ')' ∉ line.toList ∨ fault = .noState ∧ BlankBehindName line := by
  constructor
  · intro h
    cases hfound : afterName none line.toList with
    | none =>
      have hnone := (afterName_eq_none_iff.mp hfound).1
      rw [stateLetter_of_not_mem hnone] at h
      exact Or.inl ⟨(Except.error.inj h).symm, hnone⟩
    | some behind =>
      obtain ⟨before, hline, -⟩ := afterName_eq_some_iff.mp hfound
      rw [stateLetter_of_afterName hfound] at h
      obtain ⟨hfault, hblanks⟩ := firstLetter_eq_error_iff.mp h
      exact Or.inr ⟨hfault, before, behind, hline, hblanks⟩
  · rintro (⟨rfl, hnone⟩ | ⟨rfl, before, blanks, hline, hblanks⟩)
    · exact stateLetter_of_not_mem hnone
    · rw [stateLetter_of_afterName (hline ▸ afterName_of_blanks hblanks)]
      exact firstLetter_eq_error_iff.mpr ⟨rfl, hblanks⟩

/-! ## The search by bytes -/

/-- The bytes of a text. -/
def bytesOf (s : String) : List UInt8 :=
  s.toUTF8.data.toList

/-- The byte of a closing parenthesis. -/
def closeByte : UInt8 := 0x29

/-- The place of the last byte of this value. -/
def lastIndex? (b : UInt8) : List UInt8 → Option Nat
  | [] => none
  | a :: bytes => ((lastIndex? b bytes).map (· + 1)).or (if a = b then some 0 else none)

/-- The text from a place among its bytes on; there is none if the place is behind the end or within a character. -/
def textFrom? (s : String) (i : Nat) : Option String :=
  if (⟨i⟩ : String.Pos.Raw).IsValid s then String.fromUTF8? (s.toUTF8.extract i s.utf8ByteSize) else none

/-- The state letter of a status line that is searched by its bytes; nothing comes of it if the line is cut within a character. -/
def letterByBytes? (line : String) : Option (Except ThreadFault Char) :=
  match lastIndex? closeByte (bytesOf line) with
  | none => some (.error .noName)
  | some i => (textFrom? line (i + 1)).map fun behind => firstLetter behind.toList

theorem bytesOf_ofList (cs : List Char) : bytesOf (String.ofList cs) = cs.flatMap String.utf8EncodeChar := by
  rw [bytesOf, String.toUTF8_eq_toByteArray, String.toByteArray_ofList, List.utf8Encode, List.toList_data_toByteArray]

/-- Where a character takes several bytes, each of them is above the bytes of the characters that take one. -/
theorem le_toNat_of_mem_utf8EncodeChar (h : 0x7f < c.toNat) : ∀ b ∈ String.utf8EncodeChar c, 0x80 ≤ b.toNat := by
  have hbyte : ∀ n, 0x80 ≤ n → n < 0x100 → 0x80 ≤ (UInt8.ofNat n).toNat := by
    intro n hlow hhigh
    rw [UInt8.toNat_ofNat']
    omega
  have hseveral : ¬c.val.toNat ≤ 0x7f := Nat.not_le.mpr h
  simp only [String.utf8EncodeChar, if_neg hseveral]
  split
  · simp only [List.forall_mem_cons]
    exact ⟨hbyte _ (by omega) (by omega), hbyte _ (by omega) (by omega), nofun⟩
  · split
    · simp only [List.forall_mem_cons]
      exact ⟨hbyte _ (by omega) (by omega), hbyte _ (by omega) (by omega), hbyte _ (by omega) (by omega), nofun⟩
    · simp only [List.forall_mem_cons]
      exact ⟨hbyte _ (by omega) (by omega), hbyte _ (by omega) (by omega), hbyte _ (by omega) (by omega),
        hbyte _ (by omega) (by omega), nofun⟩

/-- The byte of a closing parenthesis is in no other character. -/
theorem closeByte_mem_iff : closeByte ∈ String.utf8EncodeChar c ↔ c = ')' := by
  constructor
  · intro h
    have hone : c.val.toNat ≤ 0x7f :=
      Nat.not_lt.mp fun hseveral => absurd (le_toNat_of_mem_utf8EncodeChar hseveral closeByte h) (by decide)
    simp only [String.utf8EncodeChar, if_pos hone, List.mem_singleton] at h
    have hbyte : (0x29 : Nat) = (UInt8.ofNat c.val.toNat).toNat := congrArg UInt8.toNat h
    have hcode : c.val.toNat = (')' : Char).val.toNat := by
      rw [UInt8.toNat_ofNat', Nat.mod_eq_of_lt (by omega)] at hbyte
      exact hbyte.symm
    exact Char.ext (UInt32.toNat_inj.mp hcode)
  · rintro rfl
    decide

/-- The byte of a closing parenthesis is in a text exactly if the text has one. -/
theorem closeByte_mem_bytesOf_iff : closeByte ∈ bytesOf (String.ofList cs) ↔ ')' ∈ cs := by
  rw [bytesOf_ofList, List.mem_flatMap]
  simp only [closeByte_mem_iff, exists_eq_right]

theorem bytesOf_append (before behind : List Char) :
    bytesOf (String.ofList (before ++ ')' :: behind)) =
      bytesOf (String.ofList before) ++ closeByte :: bytesOf (String.ofList behind) := by
  have hclose : String.utf8EncodeChar ')' = [closeByte] := by decide
  simp only [bytesOf_ofList, List.flatMap_append, List.flatMap_cons, hclose, List.singleton_append]

theorem length_bytesOf (s : String) : (bytesOf s).length = s.utf8ByteSize := rfl

variable {b : UInt8} {bytes front back : List UInt8}

theorem lastIndex?_of_not_mem (h : b ∉ bytes) : lastIndex? b bytes = none := by
  induction bytes with
  | nil => rfl
  | cons a bytes ih =>
    rw [List.mem_cons, not_or] at h
    rw [lastIndex?, ih h.2, if_neg (Ne.symm h.1)]
    rfl

theorem lastIndex?_append (h : b ∉ back) : lastIndex? b (front ++ b :: back) = some front.length := by
  induction front with
  | nil =>
    rw [List.nil_append, lastIndex?, lastIndex?_of_not_mem h, if_pos rfl]
    rfl
  | cons a front ih =>
    rw [List.cons_append, lastIndex?, ih]
    rfl

/-- A text can be cut between two characters. -/
theorem textFrom?_append (s t : String) : textFrom? (s ++ t) s.utf8ByteSize = some t := by
  have hvalid : (⟨s.utf8ByteSize⟩ : String.Pos.Raw).IsValid (s ++ t) :=
    String.Pos.Raw.isValid_iff_exists_append.mpr ⟨s, t, rfl, rfl⟩
  have hbytes : (s ++ t).toUTF8.extract s.utf8ByteSize (s ++ t).utf8ByteSize = t.toUTF8 := by
    simp only [String.toUTF8_eq_toByteArray, String.toByteArray_append, String.utf8ByteSize_append]
    exact ByteArray.extract_append_eq_right rfl rfl
  rw [textFrom?, if_pos hvalid, hbytes, ProcDirectory.fromUTF8?_toUTF8]

/-- Behind the last closing parenthesis a line can be cut, and what is cut off is the text behind it. -/
theorem exists_cut_of_afterName (h : afterName none cs = some behind) :
    ∃ i, lastIndex? closeByte (bytesOf (String.ofList cs)) = some i ∧
      textFrom? (String.ofList cs) (i + 1) = some (String.ofList behind) := by
  obtain ⟨before, rfl, hlast⟩ := afterName_eq_some_iff.mp h
  have hwith : String.ofList (before ++ ')' :: behind) = String.ofList (before ++ [')']) ++ String.ofList behind := by
    rw [← String.ofList_append, List.append_assoc, List.singleton_append]
  have hsize : (String.ofList (before ++ [')'])).utf8ByteSize = (bytesOf (String.ofList before)).length + 1 := by
    rw [← length_bytesOf, bytesOf_append, List.length_append]
    rfl
  refine ⟨(bytesOf (String.ofList before)).length, ?_, ?_⟩
  · rw [bytesOf_append]
    exact lastIndex?_append (mt closeByte_mem_bytesOf_iff.mp hlast)
  · rw [hwith, ← hsize, textFrom?_append]

/-- The line is never cut within a character, and the letter that is found by the bytes is the one that is found by the characters. -/
theorem letterByBytes?_eq (line : String) : letterByBytes? line = some (stateLetter line) := by
  obtain ⟨cs, rfl⟩ := line.exists_eq_ofList
  unfold letterByBytes?
  cases hfound : afterName none cs with
  | none =>
    have hnone : ')' ∉ cs := (afterName_eq_none_iff.mp hfound).1
    rw [lastIndex?_of_not_mem (mt closeByte_mem_bytesOf_iff.mp hnone),
      stateLetter_of_not_mem (by rwa [String.toList_ofList])]
  | some behind =>
    obtain ⟨i, hlast, hcut⟩ := exists_cut_of_afterName hfound
    simp only [hlast, hcut, Option.map_some, String.toList_ofList]
    rw [stateLetter_of_afterName (by rwa [String.toList_ofList])]

/-- Behind its last closing parenthesis a line has a boundary between characters. -/
theorem isValid_of_lastIndex? {i : Nat} (h : lastIndex? closeByte (bytesOf line) = some i) :
    (⟨i + 1⟩ : String.Pos.Raw).IsValid line := by
  have hletter := letterByBytes?_eq line
  simp only [letterByBytes?, h] at hletter
  refine Decidable.byContradiction fun hinvalid => ?_
  rw [textFrom?, if_neg hinvalid] at hletter
  cases hletter

/-! ## Any name -/

/-- Whatever stands in the name of a thread and before it, the letter of its status line is found: the first character that is not
blank behind the name, if no closing parenthesis follows. A search by the bytes of a line, which cuts it one byte behind the last
closing parenthesis, comes to the same for every line, since a character ends there. It finds the letter wherever one stands, and
fails exactly if the line has no closing parenthesis, or only blanks behind the last one. -/
theorem letter_found_behind_any_name :
    (∀ (number name blanks rest : String) (letter : Char), (∀ b ∈ blanks.toList, Text.isBlank b = true) →
      Text.isBlank letter = false → letter ≠ ')' → ')' ∉ rest.toList →
      stateLetter (number ++ " (" ++ name ++ ")" ++ blanks ++ String.singleton letter ++ rest) = .ok letter) ∧
    ∀ line : String,
      letterByBytes? line = some (stateLetter line) ∧
      (∀ i, lastIndex? closeByte (bytesOf line) = some i → (⟨i + 1⟩ : String.Pos.Raw).IsValid line) ∧
      (∀ letter, stateLetter line = .ok letter ↔ Letter line letter) ∧
      ∀ fault, stateLetter line = .error fault ↔
        fault = .noName ∧ ')' ∉ line.toList ∨ fault = .noState ∧ BlankBehindName line := by
  refine ⟨fun number name blanks rest letter hblanks hletter hclose hrest => ?_, fun line =>
    ⟨letterByBytes?_eq line, fun _ => isValid_of_lastIndex?, fun _ => stateLetter_eq_ok_iff, fun _ => stateLetter_eq_error_iff⟩⟩
  have hline : (number ++ " (" ++ name ++ ")" ++ blanks ++ String.singleton letter ++ rest).toList =
      (number ++ " (" ++ name).toList ++ ')' :: (blanks.toList ++ letter :: rest.toList) := by
    simp [String.toList_append]
  refine stateLetter_of_name hline hblanks hletter ?_
  simp only [List.mem_append, List.mem_cons, not_or]
  refine ⟨fun hmem => ?_, Ne.symm hclose, hrest⟩
  exact absurd (hblanks _ hmem) (by decide)

/-- The name holds a whole status line, in brackets and characters of two bytes, and the thread sleeps. -/
theorem letter_found_behind_line_in_name :
    stateLetter ("7" ++ " (" ++ "αβ) R 1 (" ++ ")" ++ " \t" ++ String.singleton 'S' ++ " 1 7 7 0 -1") = .ok 'S' ∧
      letterByBytes? "7 (αβ) R 1 () \tS 1 7 7 0 -1" = some (.ok 'S') := by
  obtain ⟨hname, hline⟩ := letter_found_behind_any_name
  have hblanks : ∀ b ∈ " \t".toList, Text.isBlank b = true := List.all_eq_true.mp (by decide)
  have hletter := hname "7" "αβ) R 1 (" " \t" " 1 7 7 0 -1" 'S' hblanks (by decide) (by decide) (by decide)
  have hwhole : "7" ++ " (" ++ "αβ) R 1 (" ++ ")" ++ " \t" ++ String.singleton 'S' ++ " 1 7 7 0 -1" =
      "7 (αβ) R 1 () \tS 1 7 7 0 -1" := by decide
  refine ⟨hletter, ?_⟩
  rw [← hwhole, (hline _).1, hletter]

end Stragglers.Stat
