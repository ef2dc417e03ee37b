import Stragglers.Report.Basic

/-!
# Reports written out

A document is written piece by piece to a sink, which may run out of room inside a piece: it takes the bytes that it has room
for and then fails. A sink that has taken all of it is flushed at last.
-/

namespace Stragglers

/-- Why a sink fails. -/
inductive SinkFailure where
  | full | unflushed
deriving DecidableEq, Repr

/-- The failure in words. -/
def SinkFailure.message : SinkFailure → String
  | .full => "disk full"
  | .unflushed => "flush failed"

/-- Why a report was not exported. -/
inductive ExportError where
  /-- A piece of the document could not be written. -/
  | writing (cause : SinkFailure)
  /-- The document was written, and not flushed. -/
  | flushing (cause : SinkFailure)
deriving DecidableEq, Repr

/-- The error in words. -/
def ExportError.message : ExportError → String
  | .writing cause => cause.message
  | .flushing cause => cause.message

/-- Where a document goes. -/
structure Sink where
  /-- The bytes taken so far. -/
  taken : ByteArray
  /-- How many more it can take; no number means no limit. -/
  room : Option Nat
  flushFails : Bool

namespace Sink

/-- A sink that has taken nothing yet. -/
def empty (room : Option Nat) (flushFails : Bool) : Sink :=
  ⟨ByteArray.empty, room, flushFails⟩

/-- Takes the bytes of a piece as far as there is room. -/
def write (s : Sink) (piece : String) : Sink × Option SinkFailure :=
  let bytes := piece.toUTF8
  match s.room with
  | none => ({ s with taken := s.taken ++ bytes }, none)
  | some room =>
    if bytes.size ≤ room then ({ s with taken := s.taken ++ bytes, room := some (room - bytes.size) }, none)
    else ({ s with taken := s.taken ++ bytes.extract 0 room, room := some 0 }, some .full)

/-- Takes one piece after the other up to the first failure. -/
def writeAll (s : Sink) : List String → Sink × Option SinkFailure
  | [] => (s, none)
  | piece :: pieces =>
    match s.write piece with
    | (s, none) => s.writeAll pieces
    | (s, some failure) => (s, some failure)

/-- Hands on what it has taken. -/
def flush (s : Sink) : Option SinkFailure :=
  if s.flushFails then some .unflushed else none

end Sink

/-- Writes the document to a sink and flushes it. -/
def Report.export (r : Report) (sink : Sink) : Sink × Option ExportError :=
  match sink.writeAll r.pieces with
  | (sink, some failure) => (sink, some (.writing failure))
  | (sink, none) => (sink, sink.flush.map .flushing)

end Stragglers
