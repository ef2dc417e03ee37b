import Stragglers.Proofs.Json.Extent
import Stragglers.Proofs.Report.Export

/-!
# Exports that fail

A writer may take only a part of the bytes that it is given, in any number of calls, until it has no room left. What it has taken
in the end does not depend on these parts: it is as much of the document as there was room for (`ByteWriter.took_writeAll`), and it
differs from the sink that takes each piece at once in nothing that a sink shows (`Report.export_sink`). No part of a document that
ends before its closing brace is a JSON text, so a document that was cut is told from a whole one
(`failed_export_leaves_cut_document`).
-/

namespace Stragglers

open Json (Spells)

/-! ## Writers -/

/-- Where a document goes, call by call. -/
structure ByteWriter where
  /-- The bytes taken so far. -/
  taken : ByteArray
  /-- How many more it can take. -/
  room : Nat
  /-- How many bytes it takes at most at each of the next calls, besides the first one; behind the last there is no such bound. -/
  grains : List Nat
  flushFails : Bool
  /-- How often it has been asked to hand on what it has taken. -/
  flushes : Nat

namespace ByteWriter

/-- How many of so many bytes the next call takes. -/
def portion (w : ByteWriter) (size : Nat) : Nat :=
  min (min size w.room) (w.grains.headD size + 1)

/-- Takes a part of the bytes. -/
def take (w : ByteWriter) (bytes : ByteArray) : ByteWriter :=
  { w with
    taken := w.taken ++ bytes.extract 0 (w.portion bytes.size)
    room := w.room - w.portion bytes.size
    grains := w.grains.tail }

/-- Calls for the rest of the bytes until all are taken or there is no room. -/
def write (w : ByteWriter) (bytes : ByteArray) : ByteWriter × Option SinkFailure :=
  if bytes.size = 0 then (w, none)
  else if w.room = 0 then (w, some .full)
  else (w.take bytes).write (bytes.extract (w.portion bytes.size) bytes.size)
termination_by bytes.size
decreasing_by
  simp only [ByteArray.size_extract, portion]
  omega

/-- Takes one piece after the other up to the first failure. -/
def writeAll (w : ByteWriter) : List String → ByteWriter × Option SinkFailure
  | [] => (w, none)
  | piece :: pieces =>
    match w.write piece.toUTF8 with
    | (w, none) => w.writeAll pieces
    | (w, some failure) => (w, some failure)

/-- Hands on what it has taken. -/
def flush (w : ByteWriter) : ByteWriter × Option SinkFailure :=
  ({ w with flushes := w.flushes + 1 }, if w.flushFails then some .unflushed else none)

/-- The writer without its calls. -/
def sink (w : ByteWriter) : Sink :=
  ⟨w.taken, some w.room, w.flushFails⟩

end ByteWriter

/-- Writes the document to a writer and flushes it. -/
def Report.exportTo (r : Report) (w : ByteWriter) : ByteWriter × Option ExportError :=
  match w.writeAll r.pieces with
  | (w, some failure) => (w, some (.writing failure))
  | (w, none) => (w.flush.1, w.flush.2.map .flushing)

namespace ByteWriter

variable {w w' w'' : ByteWriter} {a b bytes : ByteArray} {failure : Option SinkFailure}

theorem extract_of_size_le {n : Nat} (h : a.size ≤ n) : a.extract 0 n = a := by
  rw [← Nat.max_eq_left h, ByteArray.extract_zero_max_size]

/-- The writer has taken what it had room for of the bytes, and failed if that was not all. -/
structure Took (w : ByteWriter) (bytes : ByteArray) (w' : ByteWriter) (failure : Option SinkFailure) : Prop where
  taken : w'.taken = w.taken ++ bytes.extract 0 w.room
  room : w'.room = w.room - bytes.size
  flushFails : w'.flushFails = w.flushFails
  flushes : w'.flushes = w.flushes
  failure : failure = if w.room < bytes.size then some .full else none

/-- Without a failure there was room for all bytes. -/
theorem Took.size_le (h : w.Took bytes w' none) : bytes.size ≤ w.room := by
  have hfailure := h.failure
  split at hfailure
  · cases hfailure
  · omega

theorem Took.lt_size {cause : SinkFailure} (h : w.Took bytes w' (some cause)) : w.room < bytes.size := by
  have hfailure := h.failure
  split at hfailure
  · assumption
  · cases hfailure

theorem took_empty (w : ByteWriter) : w.Took ByteArray.empty w none where
  taken := by
    have hnone : ByteArray.empty.extract 0 w.room = ByteArray.empty := by
      rw [ByteArray.extract_eq_empty_iff]
      exact Nat.min_le_right _ _
    rw [hnone, ByteArray.append_empty]
  room := rfl
  flushFails := rfl
  flushes := rfl
  failure := rfl

/-- Bytes behind others are taken as far as there is still room for them. -/
theorem Took.append (h : w.Took a w' none) (h' : w'.Took b w'' failure) : w.Took (a ++ b) w'' failure where
  taken := by
    have hsize := h.size_le
    rw [h'.taken, h.taken, ByteArray.extract_append, extract_of_size_le hsize, h.room, Nat.zero_sub, ByteArray.append_assoc]
  room := by
    rw [h'.room, h.room, ByteArray.size_append]
    omega
  flushFails := h'.flushFails.trans h.flushFails
  flushes := h'.flushes.trans h.flushes
  failure := by
    have hsize := h.size_le
    have hroom : w.room - a.size < b.size ↔ w.room < (a ++ b).size := by
      rw [ByteArray.size_append]
      omega
    rw [h'.failure, h.room]
    simp only [hroom]

/-- Where the room ends within some bytes, nothing is taken of those behind them. -/
theorem Took.append_of_failure {cause : SinkFailure} (h : w.Took a w' (some cause)) (b : ByteArray) :
    w.Took (a ++ b) w' (some cause) where
  taken := by
    have hlt := h.lt_size
    have hnone : b.extract (0 - a.size) (w.room - a.size) = ByteArray.empty := by
      rw [ByteArray.extract_eq_empty_iff]
      omega
    rw [h.taken, ByteArray.extract_append, hnone, ByteArray.append_empty]
  room := by
    have hlt := h.lt_size
    rw [h.room, ByteArray.size_append]
    omega
  flushFails := h.flushFails
  flushes := h.flushes
  failure := by
    have hlt := h.lt_size
    rw [h.failure, if_pos hlt, ByteArray.size_append, if_pos (by omega)]

/-- One call takes a first part of the bytes. -/
theorem took_take (w : ByteWriter) (bytes : ByteArray) :
    w.Took (bytes.extract 0 (w.portion bytes.size)) (w.take bytes) none := by
  have hroom : w.portion bytes.size ≤ w.room := by
    unfold portion
    omega
  have hsize : w.portion bytes.size ≤ bytes.size := by
    unfold portion
    omega
  refine ⟨?_, ?_, rfl, rfl, ?_⟩
  · rw [take, ByteArray.extract_extract]
    simp only [Nat.zero_add, Nat.min_eq_right hroom]
  · rw [take, ByteArray.size_extract, Nat.min_eq_left hsize, Nat.sub_zero]
  · rw [ByteArray.size_extract, if_neg]
    omega

/-- Bytes are taken as far as there is room, whatever their parts. -/
theorem took_write (w : ByteWriter) (bytes : ByteArray) : w.Took bytes (w.write bytes).1 (w.write bytes).2 := by
  fun_induction write w bytes with
  | case1 w bytes hempty =>
    obtain rfl := ByteArray.size_eq_zero_iff.mp hempty
    exact took_empty w
  | case2 w bytes hbytes hroom =>
    refine ⟨?_, ?_, rfl, rfl, ?_⟩
    · rw [hroom, ByteArray.extract_same, ByteArray.append_empty]
    · change w.room = w.room - bytes.size
      omega
    · rw [if_pos (by omega)]
  | case3 w bytes hbytes hroom ih =>
    have hsplit : bytes.extract 0 (w.portion bytes.size) ++ bytes.extract (w.portion bytes.size) bytes.size = bytes := by
      rw [ByteArray.extract_append_extract, Nat.zero_min, Nat.max_eq_right, ByteArray.extract_zero_size]
      unfold portion
      omega
    have htook := (w.took_take bytes).append ih
    rwa [hsplit] at htook

/-- Pieces are taken as far as there is room for the text that they make together. -/
theorem took_writeAll (w : ByteWriter) (pieces : List String) :
    w.Took (Json.joined pieces).toUTF8 (w.writeAll pieces).1 (w.writeAll pieces).2 := by
  induction pieces generalizing w with
  | nil =>
    rw [Json.joined_nil]
    exact took_empty w
  | cons piece pieces ih =>
    have happend : (Json.joined (piece :: pieces)).toUTF8 = piece.toUTF8 ++ (Json.joined pieces).toUTF8 := by
      rw [Json.joined_cons]
      exact String.toByteArray_append
    have hfirst := w.took_write piece.toUTF8
    rw [happend, writeAll]
    generalize w.write piece.toUTF8 = result at hfirst
    obtain ⟨w', _ | cause⟩ := result
    · exact hfirst.append (ih w')
    · exact hfirst.append_of_failure _

/-! ### Writers as sinks -/

/-- A sink takes a piece as a writer does. -/
theorem Took.sink_write {piece : String} (h : w.Took piece.toUTF8 w' failure) :
    w.sink.write piece = (w'.sink, failure) := by
  unfold Sink.write sink
  rw [h.taken, h.room, h.flushFails, h.failure]
  dsimp only
  generalize piece.toUTF8 = bytes
  by_cases hsize : bytes.size ≤ w.room
  · rw [if_pos hsize, if_neg (Nat.not_lt.mpr hsize), extract_of_size_le hsize]
  · have hroom : w.room - bytes.size = 0 := by omega
    rw [if_neg hsize, if_pos (Nat.lt_of_not_le hsize), hroom]

theorem sink_writeAll (w : ByteWriter) (pieces : List String) :
    w.sink.writeAll pieces = ((w.writeAll pieces).1.sink, (w.writeAll pieces).2) := by
  induction pieces generalizing w with
  | nil => rfl
  | cons piece pieces ih =>
    have hpiece := (w.took_write piece.toUTF8).sink_write
    rw [Sink.writeAll, writeAll, hpiece]
    generalize w.write piece.toUTF8 = result
    obtain ⟨w', _ | cause⟩ := result
    · exact ih w'
    · rfl

end ByteWriter

/-! ## Documents that are cut -/

/-- Bytes at the beginning of a text that are a text themselves are followed by the rest of it. -/
theorem exists_rest_of_extract {s t : String} {n : Nat} (hn : n < t.toUTF8.size) (h : s.toUTF8 = t.toUTF8.extract 0 n) :
    ∃ rest, rest ≠ [] ∧ t.toList = s.toList ++ rest := by
  change n < t.toByteArray.size at hn
  change s.toByteArray = t.toByteArray.extract 0 n at h
  have hpos : (⟨n⟩ : String.Pos.Raw).IsValid t := by
    refine String.Pos.Raw.isValid_iff_isValidUTF8_extract_zero.mpr ⟨Nat.le_of_lt hn, ?_⟩
    rw [← h]
    exact s.isValidUTF8
  have hvalid : (t.toByteArray.extract n t.utf8ByteSize).IsValidUTF8 :=
    (String.Pos.Raw.isValid_iff_isValidUTF8_extract_utf8ByteSize.mp hpos).2
  have happend : t = s ++ String.ofByteArray _ hvalid := by
    have hbytes : (String.ofByteArray _ hvalid).toByteArray = t.toByteArray.extract n t.utf8ByteSize := rfl
    rw [← String.toByteArray_inj, String.toByteArray_append, hbytes, h, ByteArray.extract_append_extract, Nat.zero_min,
      ← String.size_toByteArray, ByteArray.extract_zero_max_size]
  refine ⟨(String.ofByteArray _ hvalid).toList, ?_, ?_⟩
  · intro hnil
    have hsize : t.toByteArray.size = s.toByteArray.size := by
      rw [String.toList_eq_nil_iff.mp hnil, String.append_empty] at happend
      rw [happend]
    rw [hsize, h, ByteArray.size_extract] at hn
    omega
  · rw [← String.toList_append, ← happend]

namespace Report

/-- A document ends in a closing brace. -/
theorem exists_document_eq (r : Report) : ∃ body, r.document.toList = body ++ ['\x7d'] := by
  have hspells : Spells (.value r.toJson) r.document.toList := by
    rw [document, Json.Value.write, Json.toList_joined]
    exact r.proper_toJson.spells_pieces .indented 0
  unfold toJson at hspells
  generalize r.document.toList = text at hspells ⊢
  cases hspells with
  | @object _ members _ => exact ⟨'\x7b' :: members, rfl⟩

/-- No text at the beginning of a document stands for a value, unless it is the whole. -/
theorem read?_of_document_cut {r : Report} {s : String} {n : Nat} (hn : n < r.document.toUTF8.size)
    (h : s.toUTF8 = r.document.toUTF8.extract 0 n) : Json.read? s = none := by
  obtain ⟨rest, hrest, hdocument⟩ := exists_rest_of_extract hn h
  obtain ⟨body, hbody⟩ := r.exists_document_eq
  have hbrace : '\x7d' ∈ rest := by
    rcases List.eq_nil_or_concat rest with hnil | ⟨before, c, hconcat⟩
    · exact absurd hnil hrest
    · have hlast := congrArg List.getLast? hdocument
      simp only [hbody, hconcat, List.concat_eq_append, ← List.append_assoc, List.getLast?_concat, Option.some.injEq] at hlast
      subst hlast
      simp [hconcat]
  exact Json.read?_of_cut (r.proper_toJson.read?_write .indented) hdocument hbrace

/-- What a sink shows of an export is what a writer shows whose calls are not looked at. -/
theorem export_sink (r : Report) (w : ByteWriter) : r.export w.sink = ((r.exportTo w).1.sink, (r.exportTo w).2) := by
  unfold Report.export exportTo
  rw [w.sink_writeAll]
  generalize w.writeAll r.pieces = result
  obtain ⟨w', _ | cause⟩ := result
  · rfl
  · rfl

/-- An export takes of the document what there is room for, and flushes if that was all. -/
theorem exportTo_ends (r : Report) (w : ByteWriter) :
    let document := r.document.toUTF8
    (r.exportTo w).1.sink = ⟨w.taken ++ document.extract 0 w.room, some (w.room - document.size), w.flushFails⟩ ∧
      (r.exportTo w).1.flushes = w.flushes + (if w.room < document.size then 0 else 1) ∧
      (r.exportTo w).2 =
        if w.room < document.size then some (.writing .full)
        else if w.flushFails then some (.flushing .unflushed) else none := by
  intro document
  have htook : w.Took document (w.writeAll r.pieces).1 (w.writeAll r.pieces).2 := w.took_writeAll r.pieces
  unfold exportTo ByteWriter.sink
  generalize w.writeAll r.pieces = result at htook
  obtain ⟨w', failure⟩ := result
  obtain ⟨htaken, hroom, hfails, hflushes, hfailure⟩ := htook
  dsimp only at htaken hroom hfails hflushes hfailure
  by_cases hlong : w.room < document.size
  · rw [if_pos hlong] at hfailure
    subst hfailure
    simp only [htaken, hroom, hfails, hflushes, hlong, if_true, Nat.add_zero, and_self]
  · rw [if_neg hlong] at hfailure
    subst hfailure
    simp only [ByteWriter.flush, htaken, hroom, hfails, hflushes, hlong, if_false, true_and]
    cases w.flushFails <;> rfl

end Report

/-- An export to a writer that takes so many bytes and then fails, in whatever parts it takes them, leaves the beginning of the
document that it has room for. If the document is longer, the export fails in writing, and nothing is flushed; otherwise the writer
is flushed once, and the export fails if that fails, and succeeds if it does not. A sink with the same room, which takes each piece
at once, ends the same. No text at the beginning of the document stands for a value unless it is the whole document, so what a
failed write leaves is no JSON text. -/
theorem failed_export_leaves_cut_document (r : Report) (w : ByteWriter) :
    let size := r.document.toUTF8.size
    let left := r.document.toUTF8.extract 0 (min w.room size)
    (r.exportTo w).1.taken = w.taken ++ left ∧
    (r.exportTo w).1.flushes = w.flushes + (if w.room < size then 0 else 1) ∧
    (r.exportTo w).2 =
      (if w.room < size then some (.writing .full) else if w.flushFails then some (.flushing .unflushed) else none) ∧
    r.export ⟨w.taken, some w.room, w.flushFails⟩ =
      (⟨w.taken ++ left, some (w.room - size), w.flushFails⟩, (r.exportTo w).2) ∧
    ∀ (s : String) (n : Nat), n < size → s.toUTF8 = r.document.toUTF8.extract 0 n →
      Json.read? s = none ∧ ∀ v, ¬Spells (.spaced v) s.toList := by
  intro size left
  have hleft : r.document.toUTF8.extract 0 w.room = left := by
    rcases Nat.le_total w.room size with hroom | hroom
    · simp only [left, Nat.min_eq_left hroom]
    · simp only [left, Nat.min_eq_right hroom]
      rw [ByteWriter.extract_of_size_le hroom, ByteArray.extract_zero_size]
  obtain ⟨hsink, hflushes, herror⟩ := r.exportTo_ends w
  rw [hleft] at hsink
  refine ⟨congrArg Sink.taken hsink, hflushes, herror, ?_, fun s n hn hs => ?_⟩
  · rw [← hsink]
    exact r.export_sink w
  · have hread : Json.read? s = none := Report.read?_of_document_cut hn hs
    refine ⟨hread, fun v hv => ?_⟩
    rw [Json.read?_of_spells hv] at hread
    cases hread

/-- A report of one task. -/
def stoppedReport : Report :=
  ⟨[.of ⟨7⟩ "stopped" [.named "app::work"]], 2, false⟩

/-- A writer that takes three bytes and two more leaves the report cut behind the first quote. -/
theorem stopped_report_cut_behind_quote :
    (stoppedReport.exportTo ⟨ByteArray.empty, 5, [2, 3], true, 0⟩).1.taken = "\x7b\n  \"".toUTF8 ∧
      (stoppedReport.exportTo ⟨ByteArray.empty, 5, [2, 3], true, 0⟩).1.flushes = 0 ∧
      (stoppedReport.exportTo ⟨ByteArray.empty, 5, [2, 3], true, 0⟩).2 = some (.writing .full) ∧
      5 < stoppedReport.document.toUTF8.size ∧
      "\x7b\n  \"".toUTF8 = stoppedReport.document.toUTF8.extract 0 5 ∧ Json.read? "\x7b\n  \"" = none := by
  obtain ⟨htaken, hflushes, herror, -, hcut⟩ :=
    failed_export_leaves_cut_document stoppedReport ⟨ByteArray.empty, 5, [2, 3], true, 0⟩
  have hlong : 5 < stoppedReport.document.toUTF8.size := by decide +kernel
  have hbytes : "\x7b\n  \"".toUTF8 = stoppedReport.document.toUTF8.extract 0 5 := by decide +kernel
  have hroom : min 5 stoppedReport.document.toUTF8.size = 5 := Nat.min_eq_left (Nat.le_of_lt hlong)
  simp only [hroom, ← hbytes, ByteArray.empty_append] at htaken
  simp only [hlong, if_true] at hflushes herror
  exact ⟨htaken, hflushes, herror, hlong, hbytes, (hcut _ 5 hlong hbytes).1⟩

end Stragglers
