import Stragglers.Json.Reading
import Stragglers.Task.Basic

/-!
# Tasks as JSON

A record is written as an object of its four parts in their order, a frame as one of its two. It is read by the names of the
members, in any order and among others that are passed over; each known name has to be there exactly once, only a location
may be missing. A record or a frame may also stand as the array of all its parts in order.
-/

namespace Stragglers

open Json (Value)

namespace Json

/-- The only member of this name. -/
def member? (name : String) (members : List (String × Value)) : Option Value :=
  match members.filter (·.1 == name) with
  | [(_, v)] => some v
  | _ => none

/-- The only member of this name, and null if there is none. -/
def memberOrNull? (name : String) (members : List (String × Value)) : Option Value :=
  match members.filter (·.1 == name) with
  | [] => some .null
  | [(_, v)] => some v
  | _ => none

end Json

/-- The number of a task as a JSON number. -/
def TaskId.toJson (id : TaskId) : Value :=
  .ofNat id.val.toNat

/-- The number of a task, of a JSON number in range. -/
def TaskId.ofJson? (v : Value) : Option TaskId :=
  v.word?.map TaskId.mk

namespace Frame

/-- The frame as an object. -/
def toJson (f : Frame) : Value :=
  .object [("function", .text f.function), ("location", .ofText? f.location)]

/-- A location as it is read: a text, or null. -/
def locationOfJson? : Value → Option (Option String)
  | .null => some none
  | .text s => some (some s)
  | _ => none

/-- The frame of its two parts. -/
def ofParts? (function location : Value) : Option Frame := do
  return ⟨← function.text?, ← locationOfJson? location⟩

/-- The frame that an object or an array stands for. -/
def ofJson? : Value → Option Frame
  | .array [function, location] => ofParts? function location
  | .object members => do ofParts? (← Json.member? "function" members) (← Json.memberOrNull? "location" members)
  | _ => none

end Frame

namespace TaskRecord

/-- The record as an object. -/
def toJson (t : TaskRecord) : Value :=
  .object [
    ("id", t.id.toJson),
    ("state", .text t.state),
    ("top_function", .text t.topFunction),
    ("frames", .array (t.frames.map Frame.toJson))
  ]

/-- The record of its four parts; the top function is the one that is given. -/
def ofParts? (id state topFunction frames : Value) : Option TaskRecord := do
  return ⟨← TaskId.ofJson? id, ← state.text?, ← topFunction.text?, ← (← frames.elements?).mapM Frame.ofJson?⟩

/-- The record that an object or an array stands for. -/
def ofJson? : Value → Option TaskRecord
  | .array [id, state, topFunction, frames] => ofParts? id state topFunction frames
  | .object members => do
    ofParts? (← Json.member? "id" members) (← Json.member? "state" members) (← Json.member? "top_function" members)
      (← Json.member? "frames" members)
  | _ => none

/-- The text of the record without space. -/
def json (t : TaskRecord) : String :=
  t.toJson.write .compact

end TaskRecord

/-- The task number that a text stands for. -/
def TaskId.read? (s : String) : Option TaskId :=
  (Json.read? s).bind TaskId.ofJson?

/-- The frame that a text stands for. -/
def Frame.read? (s : String) : Option Frame :=
  (Json.read? s).bind Frame.ofJson?

/-- The record that a text stands for. -/
def TaskRecord.read? (s : String) : Option TaskRecord :=
  (Json.read? s).bind TaskRecord.ofJson?

end Stragglers
