import Mathlib.Data.List.Forall2
import Stragglers.Proofs.Json.Extent
import Stragglers.Proofs.Task.Parts

/-!
# The spellings of a record

A record is read by the names of its parts and not by their layout. `TaskRecord.Spelling` says what stands for a record: an object
with each part once, in any order and among members of other names, or the array of the parts in their order, and likewise for its
frames. A text is read as a record exactly when it spells such a value, and a value that is `Malformed` is read as none
(`record_read_by_field`).
-/

namespace Stragglers

open Json (Value Spells Spaces Consists)

namespace Json.Value

variable {v : Value}

theorem text?_eq_some {s : String} : v.text? = some s ↔ v = .text s := by
  cases v <;> simp [text?]

theorem elements?_eq_some {vs : List Value} : v.elements? = some vs ↔ v = .array vs := by
  cases v <;> simp [elements?]

end Json.Value

/-- A task number is decoded from its own value alone. -/
theorem TaskId.ofJson?_eq_some {v : Value} {id : TaskId} (hv : v.Proper) : TaskId.ofJson? v = some id ↔ v = id.toJson := by
  rw [ofJson?, toJson, ← Json.word?_eq_some hv, Option.map_eq_some_iff]
  constructor
  · rintro ⟨n, hn, rfl⟩
    exact hn
  · exact fun h => ⟨id.val, h, rfl⟩

/-! ## Frames -/

namespace Frame

/-- The names of the parts of a frame. -/
def memberNames : List String :=
  ["function", "location"]

/-- The value stands for the frame. -/
inductive Spelling (f : Frame) : Value → Prop where
  | object {members : List (String × Value)}
      (h : Consists memberNames [("function", .text f.function), ("location", .ofText? f.location)] members) :
      Spelling f (.object members)
  /-- Where there is no location, it need not be said. -/
  | unlocated {members : List (String × Value)} (hlocation : f.location = none)
      (h : Consists memberNames [("function", .text f.function)] members) : Spelling f (.object members)
  | array : Spelling f (.array [.text f.function, .ofText? f.location])

/-- The value stands for no frame, whatever its parts may be. -/
inductive Malformed : Value → Prop where
  | twice {name : String} {members : List (String × Value)} (hname : name ∈ memberNames)
      (h : 1 < members.countP (·.1 == name)) : Malformed (.object members)
  | missing {members : List (String × Value)} (h : ∀ m ∈ members, m.1 ≠ "function") : Malformed (.object members)
  | length {elements : List Value} (h : elements.length ≠ 2) : Malformed (.array elements)

variable {f : Frame} {v : Value}

/-- A place is decoded from its text alone, and a missing one from null. -/
theorem locationOfJson?_eq_some {location : Option String} : locationOfJson? v = some location ↔ v = .ofText? location := by
  cases v <;> cases location <;> simp [locationOfJson?, Value.ofText?]

/-- The parts of a frame are the values of its function and its place. -/
theorem ofParts?_eq_some {function location : Value} :
    ofParts? function location = some f ↔ function = .text f.function ∧ location = .ofText? f.location := by
  simp only [ofParts?, Option.bind_eq_bind, Option.bind_eq_some_iff, Option.pure_def, Value.text?_eq_some,
    locationOfJson?_eq_some, Option.some.injEq]
  constructor
  · rintro ⟨_, hfunction, _, hlocation, rfl⟩
    exact ⟨hfunction, hlocation⟩
  · rintro ⟨hfunction, hlocation⟩
    exact ⟨_, hfunction, _, hlocation, rfl⟩

/-- What stands for a frame is decoded as it. -/
theorem Spelling.ofJson? (h : f.Spelling v) : Frame.ofJson? v = some f := by
  cases h with
  | object h =>
    have hfunction := h.member? "function" (by decide) rfl
    have hlocation := h.memberOrNull? "location" (by decide) rfl
    simp only [Frame.ofJson?, hfunction, hlocation, Option.bind_eq_bind, Option.bind_some]
    exact ofParts?_eq_some.mpr ⟨rfl, rfl⟩
  | unlocated hlocation h =>
    have hfunction := h.member? "function" (by decide) rfl
    have hnull := h.memberOrNull? "location" (by decide) rfl
    simp only [Frame.ofJson?, hfunction, hnull, Option.bind_eq_bind, Option.bind_some]
    exact ofParts?_eq_some.mpr ⟨rfl, by rw [hlocation]; rfl⟩
  | array => exact ofParts?_eq_some.mpr ⟨rfl, rfl⟩

/-- What a frame is decoded from stands for it. -/
theorem spelling_of_ofJson? (h : Frame.ofJson? v = some f) : f.Spelling v := by
  unfold Frame.ofJson? at h
  split at h
  · obtain ⟨rfl, rfl⟩ := ofParts?_eq_some.mp h
    exact .array
  · rename_i members
    simp only [Option.bind_eq_bind, Option.bind_eq_some_iff, Json.member?_eq_some, Json.memberOrNull?_eq_some] at h
    obtain ⟨_, hfunction, _, hlocation, hparts⟩ := h
    obtain ⟨rfl, rfl⟩ := ofParts?_eq_some.mp hparts
    have hconsists := Json.consists_known memberNames (by decide) members
    rcases hlocation with hlocation | ⟨hmissing, hnull⟩
    · simp only [memberNames, List.flatMap_cons, List.flatMap_nil, hfunction, hlocation] at hconsists
      exact .object hconsists
    · simp only [memberNames, List.flatMap_cons, List.flatMap_nil, hfunction, hmissing] at hconsists
      -- a location that is missing was read as null, so the frame has none
      refine .unlocated ?_ hconsists
      cases hoption : f.location with
      | none => rfl
      | some _ =>
        rw [hoption] at hnull
        cases hnull
  · cases h

/-- A value is decoded as a frame exactly when it stands for the frame. -/
theorem ofJson?_eq_some : Frame.ofJson? v = some f ↔ f.Spelling v :=
  ⟨spelling_of_ofJson?, Spelling.ofJson?⟩

/-- No frame is decoded from what is malformed. -/
theorem Malformed.ofJson? (h : Malformed v) : Frame.ofJson? v = none := by
  cases h with
  | @twice name members hname h =>
    obtain ⟨hmember, hnull⟩ := Json.member?_of_twice h
    simp only [memberNames, List.mem_cons, List.not_mem_nil, or_false] at hname
    rcases hname with rfl | rfl
    · simp [Frame.ofJson?, hmember]
    · simp [Frame.ofJson?, hnull]
  | missing h => simp [Frame.ofJson?, Json.member?_of_missing h]
  | @length elements h =>
    unfold Frame.ofJson?
    split
    · rename_i heq
      cases heq
      exact absurd rfl h
    · rename_i heq
      cases heq
    · rfl

/-- Among the values of an array one that is malformed is enough. -/
theorem Malformed.mapM_ofJson? {vs : List Value} (h : Malformed v) (hv : v ∈ vs) : vs.mapM Frame.ofJson? = none := by
  induction vs with
  | nil => cases hv
  | cons u vs ih =>
    rw [List.mapM_cons]
    rcases List.mem_cons.mp hv with rfl | hv
    · simp [h.ofJson?]
    · simp [ih hv]

/-- The values of an array are decoded as frames exactly when each stands for its frame. -/
theorem mapM_ofJson?_eq_some {frames : List Frame} {vs : List Value} :
    vs.mapM Frame.ofJson? = some frames ↔ List.Forall₂ Spelling frames vs := by
  induction vs generalizing frames with
  | nil => simp [eq_comm]
  | cons v vs ih =>
    simp only [List.mapM_cons, Option.bind_eq_bind, Option.bind_eq_some_iff, Option.pure_def, Option.some.injEq,
      ofJson?_eq_some, ih, List.forall₂_cons_right_iff]
    constructor
    · rintro ⟨f, hf, rest, hrest, rfl⟩
      exact ⟨f, rest, hf, hrest, rfl⟩
    · rintro ⟨f, rest, hf, hrest, rfl⟩
      exact ⟨f, hf, rest, hrest, rfl⟩

end Frame

/-! ## Records -/

namespace TaskRecord

/-- The names of the parts of a record. -/
def memberNames : List String :=
  ["id", "state", "top_function", "frames"]

/-- The value stands for the record. -/
inductive Spelling (t : TaskRecord) : Value → Prop where
  | object {members : List (String × Value)} {frames : List Value} (hframes : List.Forall₂ Frame.Spelling t.frames frames)
      (h : Consists memberNames [("id", t.id.toJson), ("state", .text t.state), ("top_function", .text t.topFunction),
        ("frames", .array frames)] members) : Spelling t (.object members)
  | array {frames : List Value} (hframes : List.Forall₂ Frame.Spelling t.frames frames) :
      Spelling t (.array [t.id.toJson, .text t.state, .text t.topFunction, .array frames])

/-- The value stands for no record: a part occurs twice or is missing, or the array has another length, or one of the frames is
like that. -/
inductive Malformed : Value → Prop where
  | twice {name : String} {members : List (String × Value)} (hname : name ∈ memberNames)
      (h : 1 < members.countP (·.1 == name)) : Malformed (.object members)
  | missing {name : String} {members : List (String × Value)} (hname : name ∈ memberNames) (h : ∀ m ∈ members, m.1 ≠ name) :
      Malformed (.object members)
  | length {elements : List Value} (h : elements.length ≠ 4) : Malformed (.array elements)
  | frameOfObject {members : List (String × Value)} {frames : List Value} {f : Value}
      (hframes : ("frames", .array frames) ∈ members) (hf : f ∈ frames) (h : Frame.Malformed f) : Malformed (.object members)
  | frameOfArray {id state topFunction f : Value} {frames : List Value} (hf : f ∈ frames) (h : Frame.Malformed f) :
      Malformed (.array [id, state, topFunction, .array frames])

variable {t : TaskRecord} {v : Value}

/-- The parts of a record are the values of its number, state and top, and an array of what stands for its frames. -/
theorem ofParts?_eq_some {id state topFunction frames : Value} (hid : id.Proper) :
    ofParts? id state topFunction frames = some t ↔
      id = t.id.toJson ∧ state = .text t.state ∧ topFunction = .text t.topFunction ∧
        ∃ vs, frames = .array vs ∧ List.Forall₂ Frame.Spelling t.frames vs := by
  simp only [ofParts?, Option.bind_eq_bind, Option.bind_eq_some_iff, Option.pure_def, Value.text?_eq_some,
    Value.elements?_eq_some, TaskId.ofJson?_eq_some hid, Frame.mapM_ofJson?_eq_some, Option.some.injEq]
  constructor
  · rintro ⟨_, hid, _, hstate, _, htop, vs, hvs, _, hframes, rfl⟩
    exact ⟨hid, hstate, htop, vs, hvs, hframes⟩
  · rintro ⟨hid, hstate, htop, vs, hvs, hframes⟩
    exact ⟨_, hid, _, hstate, _, htop, vs, hvs, _, hframes, rfl⟩

/-- What stands for a record is decoded as it. -/
theorem Spelling.ofJson? (h : t.Spelling v) : TaskRecord.ofJson? v = some t := by
  have hparts : ∀ frames : List Value, List.Forall₂ Frame.Spelling t.frames frames →
      ofParts? t.id.toJson (.text t.state) (.text t.topFunction) (.array frames) = some t :=
    fun frames hframes => (ofParts?_eq_some t.id.proper_toJson).mpr ⟨rfl, rfl, rfl, frames, rfl, hframes⟩
  cases h with
  | @object members frames hframes h =>
    have hid := h.member? "id" (by decide) rfl
    have hstate := h.member? "state" (by decide) rfl
    have htop := h.member? "top_function" (by decide) rfl
    have hmember := h.member? "frames" (by decide) rfl
    simp only [TaskRecord.ofJson?, hid, hstate, htop, hmember, Option.bind_eq_bind, Option.bind_some]
    exact hparts frames hframes
  | array hframes => exact hparts _ hframes

/-- What a record is decoded from stands for it. -/
theorem spelling_of_ofJson? (hv : v.Proper) (h : TaskRecord.ofJson? v = some t) : t.Spelling v := by
  unfold TaskRecord.ofJson? at h
  split at h
  · rename_i id state topFunction frames
    have hproper : id.Proper := by
      cases hv with
      | array h => exact h id List.mem_cons_self
    obtain ⟨rfl, rfl, rfl, frames, rfl, hframes⟩ := (ofParts?_eq_some hproper).mp h
    exact .array hframes
  · rename_i members
    simp only [Option.bind_eq_bind, Option.bind_eq_some_iff, Json.member?_eq_some] at h
    obtain ⟨id, hid, _, hstate, _, htop, _, hmember, hparts⟩ := h
    have hproper : id.Proper := by
      cases hv with
      | object h =>
        have hmem : ("id", id) ∈ members.filter (·.1 == "id") := hid ▸ List.mem_cons_self
        exact h _ (List.mem_filter.mp hmem).1
    obtain ⟨rfl, rfl, rfl, frames, rfl, hframes⟩ := (ofParts?_eq_some hproper).mp hparts
    have hconsists := Json.consists_known memberNames (by decide) members
    simp only [memberNames, List.flatMap_cons, List.flatMap_nil, hid, hstate, htop, hmember] at hconsists
    exact .object hframes hconsists
  · cases h

/-- A value with a text is decoded as a record exactly when it stands for the record. -/
theorem ofJson?_eq_some (hv : v.Proper) : TaskRecord.ofJson? v = some t ↔ t.Spelling v :=
  ⟨spelling_of_ofJson? hv, Spelling.ofJson?⟩

/-- A text is read as a record exactly when the value that it spells stands for the record. -/
theorem read?_eq_some {s : String} (h : Spells (.spaced v) s.toList) : read? s = some t ↔ t.Spelling v := by
  rw [read?, Json.read?_of_spells h, Option.bind_some]
  exact ofJson?_eq_some (Value.proper_of_spells h)

/-- Frames of which one is malformed are the frames of no record. -/
theorem ofParts?_of_malformed {id state topFunction f : Value} {frames : List Value} (hf : f ∈ frames) (h : Frame.Malformed f) :
    ofParts? id state topFunction (.array frames) = none := by
  simp [ofParts?, Value.elements?, h.mapM_ofJson? hf]

/-- No record is decoded from what is malformed. -/
theorem Malformed.ofJson? (h : Malformed v) : TaskRecord.ofJson? v = none := by
  have hnone : ∀ {name : String} {members : List (String × Value)}, name ∈ memberNames → Json.member? name members = none →
      TaskRecord.ofJson? (.object members) = none := by
    intro name members hname h
    simp only [memberNames, List.mem_cons, List.not_mem_nil, or_false] at hname
    rcases hname with rfl | rfl | rfl | rfl <;> simp [TaskRecord.ofJson?, h]
  cases h with
  | twice hname h => exact hnone hname (Json.member?_of_twice h).1
  | missing hname h => exact hnone hname (Json.member?_of_missing h)
  | @length elements h =>
    unfold TaskRecord.ofJson?
    split
    · rename_i heq
      cases heq
      exact absurd rfl h
    · rename_i heq
      cases heq
    · rfl
  | @frameOfObject members frames f hframes hf h =>
    -- if the frames are read at all, there is only one member of this name, and it is the one with the malformed frame
    have hmember : ∀ w, Json.member? "frames" members = some w → w = .array frames := by
      intro w hw
      have hmem : ("frames", .array frames) ∈ members.filter (·.1 == "frames") := List.mem_filter.mpr ⟨hframes, rfl⟩
      rw [Json.member?_eq_some.mp hw, List.mem_singleton] at hmem
      cases hmem
      rfl
    rw [Option.eq_none_iff_forall_ne_some]
    intro t ht
    simp only [TaskRecord.ofJson?, Option.bind_eq_bind, Option.bind_eq_some_iff] at ht
    obtain ⟨_, -, _, -, _, -, w, hw, hparts⟩ := ht
    rw [hmember w hw, ofParts?_of_malformed hf h] at hparts
    cases hparts
  | frameOfArray hf h => exact ofParts?_of_malformed hf h

end TaskRecord

open TaskRecord in
/-- A text that spells a JSON value, with any space and any escapes, is read as a record exactly when the value stands for this
record: its members may stand in any order and among others of other names, a location that is none may be missing, and the record
or a frame may be the array of its parts. It is read as no record when a part of the record or of a frame occurs twice, when one
that is no location is missing, when such an array has another length, or when more than space follows. -/
theorem record_read_by_field {v : Value} {s : String} (h : Spells (.spaced v) s.toList) :
    (∀ t : TaskRecord, TaskRecord.read? s = some t ↔ t.Spelling v) ∧
    (TaskRecord.Malformed v → TaskRecord.read? s = none) ∧
    (v.IsContainer → ∀ rest : String, ¬Spaces rest.toList → TaskRecord.read? (s ++ rest) = none) := by
  refine ⟨fun t => TaskRecord.read?_eq_some h, fun hmalformed => ?_, fun hv rest hrest => ?_⟩
  · rw [TaskRecord.read?, Json.read?_of_spells h, Option.bind_some, hmalformed.ofJson?]
  · rw [TaskRecord.read?, Json.read?_append_of_not_spaces h hv hrest, Option.bind_none]

/-- A frame with its parts in another order and among others, and one that is an array. -/
def shuffledFrames : List Value :=
  [.object [("location", .null), ("columns", .array [.bool true, .null]), ("function", .text "app::work")],
    .array [.text "app::main", .text "src/main.rs:1"]]

/-- A record with its parts in another order and among others. -/
def shuffledMembers : List (String × Value) :=
  [("frames", .array shuffledFrames), ("notes", .object [("id", .null)]), ("top_function", .text "app::work"),
    ("state", .text "running"), ("id", .ofNat 7)]

theorem proper_shuffledFrames : (Value.array shuffledFrames).Proper := by
  refine .array (List.forall_mem_cons.mpr ⟨?_, List.forall_mem_singleton.mpr ?_⟩)
  · refine .object (List.forall_mem_cons.mpr ⟨.null, List.forall_mem_cons.mpr ⟨?_, List.forall_mem_singleton.mpr (.text _)⟩⟩)
    exact .array (List.forall_mem_cons.mpr ⟨.bool true, List.forall_mem_singleton.mpr .null⟩)
  · exact .array (List.forall_mem_cons.mpr ⟨.text _, List.forall_mem_singleton.mpr (.text _)⟩)

theorem proper_shuffledMembers : (Value.object shuffledMembers).Proper := by
  refine .object fun m hm => ?_
  simp only [shuffledMembers, List.mem_cons, List.not_mem_nil, or_false] at hm
  rcases hm with rfl | rfl | rfl | rfl | rfl
  · exact proper_shuffledFrames
  · exact .object (List.forall_mem_singleton.mpr .null)
  · exact .text _
  · exact .text _
  · exact Json.proper_ofNat 7

theorem forall₂_shuffledFrames :
    List.Forall₂ Frame.Spelling [.named "app::work", .located "app::main" "src/main.rs:1"] shuffledFrames :=
  .cons (.object (Json.consists_known Frame.memberNames (by decide) _)) (.cons .array .nil)

/-- The record is read from its indented text, and from no text that goes on behind the brace. -/
theorem shuffled_members_read :
    Spells (.spaced (.object shuffledMembers)) ((Value.object shuffledMembers).write .indented).toList ∧
    TaskRecord.read? ((Value.object shuffledMembers).write .indented) =
      some ⟨⟨7⟩, "running", "app::work", [.named "app::work", .located "app::main" "src/main.rs:1"]⟩ ∧
    TaskRecord.read? ((Value.object shuffledMembers).write .indented ++ " ]") = none := by
  have hspells := proper_shuffledMembers.spells_write .indented
  have hread := record_read_by_field hspells
  refine ⟨hspells, (hread.1 _).mpr ?_, hread.2.2 trivial " ]" fun hspaces => ?_⟩
  · exact .object forall₂_shuffledFrames (Json.consists_known TaskRecord.memberNames (by decide) shuffledMembers)
  · exact absurd (hspaces ']' (by decide)) (by decide)

end Stragglers
