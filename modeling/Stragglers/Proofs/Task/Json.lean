import Stragglers.Proofs.Json.Reading
import Stragglers.Proofs.Json.Writing
import Stragglers.Task.Json

/-!
# Records written and read back

The JSON value of a task number, a frame or a record is decoded as that number, frame or record (`ofJson?_toJson`), and its text in
either layout is read as that value. So nothing of a record is lost in its text, and different records have different texts
(`written_records_read_back`).
-/

namespace Stragglers

open Json (Value Layout Spells)

namespace Json

/-- A text that is written is read as the value that it was written for. -/
theorem Value.Proper.read?_write {v : Value} (h : v.Proper) (layout : Layout) : read? (v.write layout) = some v :=
  read?_of_spells (h.spells_write layout)

/-- The digits of a word are read as the word. -/
theorem word?_ofNat (n : UInt64) : (Value.ofNat n.toNat).word? = some n := by
  rw [Value.ofNat, Value.word?, Text.toList_toString, Text.digits?_toDigits n.toNat_lt]
  simp

/-- A text that may be missing has a JSON text either way. -/
theorem proper_ofText? (s : Option String) : (Value.ofText? s).Proper := by
  cases s with
  | none => exact .null
  | some s => exact .text s

/-- An array has a text if what its elements are made of always has one. -/
theorem proper_array_map {α : Type} {toJson : α → Value} (h : ∀ x, (toJson x).Proper) (xs : List α) :
    (Value.array (xs.map toJson)).Proper := by
  refine .array fun v hv => ?_
  obtain ⟨x, -, rfl⟩ := List.mem_map.mp hv
  exact h x

end Json

/-! ## Task numbers -/

/-- The value of a task number has a text: it is a number in digits. -/
theorem TaskId.proper_toJson (id : TaskId) : id.toJson.Proper := Json.proper_ofNat _

/-- The value of a task number is decoded as that number, however large it is. -/
theorem TaskId.ofJson?_toJson (id : TaskId) : TaskId.ofJson? id.toJson = some id := by
  rw [toJson, ofJson?, Json.word?_ofNat]
  rfl

/-! ## Frames -/

namespace Frame

/-- The value of a frame has a text. -/
theorem proper_toJson (f : Frame) : f.toJson.Proper := by
  refine .object fun m hm => ?_
  simp only [List.mem_cons, List.not_mem_nil, or_false] at hm
  rcases hm with rfl | rfl
  · exact .text f.function
  · exact Json.proper_ofText? f.location

/-- A place is decoded as it was, and so is a missing one. -/
theorem locationOfJson?_ofText? (s : Option String) : locationOfJson? (.ofText? s) = some s := by
  cases s <;> rfl

/-- The value of a frame is decoded as that frame. -/
theorem ofJson?_toJson (f : Frame) : ofJson? f.toJson = some f := by
  have hfunction : Json.member? "function" [("function", .text f.function), ("location", .ofText? f.location)] =
      some (.text f.function) := rfl
  have hlocation : Json.memberOrNull? "location" [("function", .text f.function), ("location", .ofText? f.location)] =
      some (.ofText? f.location) := rfl
  rw [toJson, ofJson?, hfunction, hlocation]
  simp [ofParts?, locationOfJson?_ofText?, Value.text?]

end Frame

/-! ## Records -/

namespace TaskRecord

/-- The value of a record has a text. -/
theorem proper_toJson (t : TaskRecord) : t.toJson.Proper := by
  refine .object fun m hm => ?_
  simp only [List.mem_cons, List.not_mem_nil, or_false] at hm
  rcases hm with rfl | rfl | rfl | rfl
  · exact t.id.proper_toJson
  · exact .text t.state
  · exact .text t.topFunction
  · exact Json.proper_array_map Frame.proper_toJson t.frames

/-- The values of frames are decoded as those frames, in their order. -/
theorem mapM_ofJson?_toJson (frames : List Frame) : (frames.map Frame.toJson).mapM Frame.ofJson? = some frames := by
  induction frames with
  | nil => rfl
  | cons f frames ih =>
    rw [List.map_cons, List.mapM_cons, ih, Frame.ofJson?_toJson]
    rfl

/-- The value of a record is decoded as that record. -/
theorem ofJson?_toJson (t : TaskRecord) : ofJson? t.toJson = some t := by
  have hframes : (t.frames.map Frame.toJson).mapM Frame.ofJson? = some t.frames := mapM_ofJson?_toJson t.frames
  have hparts : ofParts? t.id.toJson (.text t.state) (.text t.topFunction) (.array (t.frames.map Frame.toJson)) = some t := by
    simp only [ofParts?, TaskId.ofJson?_toJson, Value.text?, Value.elements?, hframes, Option.bind_eq_bind, Option.bind_some,
      Option.pure_def]
  exact hparts

/-- The text of a record is read as that record. -/
theorem read?_json (t : TaskRecord) : read? t.json = some t := by
  rw [json, read?, t.proper_toJson.read?_write, Option.bind_some, ofJson?_toJson]

end TaskRecord

/-- The text of a record is a JSON text without space between its parts, for the object of the four parts of the record in their
order, and it is read as the record, whatever the texts in it hold and whether or not the top function is that of the first frame.
The texts of frames and of task numbers are likewise read as what they were written for. So different records have different
texts. -/
theorem written_records_read_back :
    (∀ t : TaskRecord, Spells (.spaced t.toJson) t.json.toList ∧ Json.squeezed t.json = t.json ∧
      TaskRecord.read? t.json = some t) ∧
    (∀ f : Frame, Frame.read? (f.toJson.write .compact) = some f) ∧
    (∀ id : TaskId, TaskId.read? (id.toJson.write .compact) = some id) ∧
    ∀ t t' : TaskRecord, t.json = t'.json ↔ t = t' := by
  refine ⟨fun t => ⟨?_, ?_, t.read?_json⟩, fun f => ?_, fun id => ?_, fun t t' => ⟨fun h => ?_, congrArg _⟩⟩
  · exact t.proper_toJson.spells_write .compact
  · exact t.proper_toJson.squeezed_write .compact
  · rw [Frame.read?, f.proper_toJson.read?_write, Option.bind_some, Frame.ofJson?_toJson]
  · rw [TaskId.read?, id.proper_toJson.read?_write, Option.bind_some, TaskId.ofJson?_toJson]
  · have hread := t.read?_json
    rw [h, t'.read?_json] at hread
    exact (Option.some.inj hread).symm

end Stragglers
