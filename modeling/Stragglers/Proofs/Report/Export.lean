import Stragglers.Proofs.Task.Json
import Stragglers.Report.Export

/-!
# Exported reports

A sink without limit takes every piece, so that the bytes it holds in the end are those of the text that the pieces make together
(`Sink.writeAll_unlimited`). What it holds is read back as the object of the report, with each of its tasks
(`exported_report_reads_back`).
-/

namespace Stragglers

open Json (Value Layout Spells)

namespace Json

theorem joined_nil : joined [] = "" := rfl

theorem joined_cons (piece : String) (pieces : List String) : joined (piece :: pieces) = piece ++ joined pieces := by
  rw [joined, joined, List.flatMap_cons, String.ofList_append, String.ofList_toList]

end Json

namespace Sink

/-- Without a limit all pieces are taken, one behind the other. -/
theorem writeAll_unlimited (taken : ByteArray) (flushFails : Bool) (pieces : List String) :
    (⟨taken, none, flushFails⟩ : Sink).writeAll pieces = (⟨taken ++ (Json.joined pieces).toUTF8, none, flushFails⟩, none) := by
  induction pieces generalizing taken with
  | nil => rw [writeAll, Json.joined_nil, String.toUTF8_eq_toByteArray, String.toByteArray_empty, ByteArray.append_empty]
  | cons piece pieces ih =>
    have happend : (piece ++ Json.joined pieces).toUTF8 = piece.toUTF8 ++ (Json.joined pieces).toUTF8 :=
      String.toByteArray_append
    have hrest := ih (taken ++ piece.toUTF8)
    rw [ByteArray.append_assoc, ← happend, ← Json.joined_cons] at hrest
    exact hrest

end Sink

namespace Report

theorem proper_toJson (r : Report) : r.toJson.Proper := by
  refine .object fun m hm => ?_
  simp only [List.mem_cons, List.not_mem_nil, or_false] at hm
  rcases hm with rfl | rfl
  · exact Json.proper_ofNat _
  · exact Json.proper_array_map TaskRecord.proper_toJson r.tasks

/-- An export without limit leaves the whole document, and fails only in the flush. -/
theorem export_unlimited (r : Report) (taken : ByteArray) (flushFails : Bool) :
    r.export ⟨taken, none, flushFails⟩ =
      (⟨taken ++ r.document.toUTF8, none, flushFails⟩, if flushFails then some (.flushing .unflushed) else none) := by
  rw [Report.export, Sink.writeAll_unlimited]
  cases flushFails <;> rfl

end Report

/-- What an export adds to a sink without limit is one JSON text, the same whether or not the report is pretty. It stands for the
object of exactly two members in this order: the number of attempts, and the array of the tasks, each element decoded as the task
at its place. Without the space outside of its strings the text is the compact one. -/
theorem exported_report_reads_back (r : Report) (taken : ByteArray) (flushFails : Bool) :
    ∃ (document attempts : String) (tasks : List Value),
      let object : Value := .object [("attempts", .number attempts), ("tasks", .array tasks)]
      (∀ pretty, Report.export { r with pretty } ⟨taken, none, flushFails⟩ =
        (⟨taken ++ document.toUTF8, none, flushFails⟩, if flushFails then some (.flushing .unflushed) else none)) ∧
      Spells (.spaced object) document.toList ∧ Json.read? document = some object ∧
      attempts.toList.all Char.isDigit = true ∧ Nat.ofDigitChars 10 attempts.toList 0 = r.attempts ∧
      tasks.map TaskRecord.ofJson? = r.tasks.map some ∧
      Json.squeezed document = r.toJson.write .compact := by
  refine ⟨r.document, toString r.attempts, r.tasks.map TaskRecord.toJson, fun pretty => ?_, ?_, ?_, ?_, ?_, ?_, ?_⟩
  · exact Report.export_unlimited { r with pretty } taken flushFails
  · exact r.proper_toJson.spells_write .indented
  · exact r.proper_toJson.read?_write .indented
  · rw [List.all_eq_true]
    exact fun c hc => Nat.isDigit_of_mem_toDigits (by decide) (by decide) (Text.toList_toString r.attempts ▸ hc)
  · rw [Text.toList_toString]
    exact Nat.ofDigitChars_ten_toDigits
  · simp only [List.map_map, Function.comp_def, TaskRecord.ofJson?_toJson]
  · exact r.proper_toJson.squeezed_write .indented

end Stragglers
