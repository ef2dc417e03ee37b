/-!
# Durations

A span of time in nanoseconds, its order, and the text that descriptions and notices show: the largest unit whose whole part
is not zero, and behind the point the rest without trailing zeros.
-/

namespace Stragglers

/-- A span of time. -/
structure Duration where
  /-- Its length in nanoseconds. -/
  nanos : Nat
deriving DecidableEq, Repr

namespace Duration

/-- So many seconds, and nanoseconds beyond them. -/
def ofSeconds (seconds nanos : Nat) : Duration :=
  ⟨seconds * 1000000000 + nanos⟩

/-- So many milliseconds. -/
def ofMillis (n : Nat) : Duration :=
  ⟨n * 1000000⟩

/-- So many microseconds. -/
def ofMicros (n : Nat) : Duration :=
  ⟨n * 1000⟩

/-- The whole seconds of the span. -/
def seconds (d : Duration) : Nat :=
  d.nanos / 1000000000

/-- The nanoseconds beyond the whole seconds. -/
def subsecond (d : Duration) : Nat :=
  d.nanos % 1000000000

instance : LE Duration where
  le a b := a.nanos ≤ b.nanos

instance : Min Duration where
  min a b := ⟨min a.nanos b.nanos⟩

/-- The shorter of two spans has the smaller count of nanoseconds. -/
@[simp] theorem nanos_min (a b : Duration) : (min a b).nanos = min a.nanos b.nanos := rfl

/-- Spans are ordered as their counts of nanoseconds. -/
theorem le_def {a b : Duration} : a ≤ b ↔ a.nanos ≤ b.nanos := Iff.rfl

/-- The digits of `part` out of `10 ^ width`, without trailing zeros. -/
def fractionDigits : (width part : Nat) → List Char
  | 0, _ => []
  | width + 1, part =>
    if part = 0 then []
    else Nat.digitChar (part / Nat.pow 10 width) :: fractionDigits width (part % Nat.pow 10 width)

/-- A whole number of units, and `10 ^ width` parts of one behind the point. -/
def inUnit (unit : String) (width nanos : Nat) : String :=
  let whole := toString (nanos / Nat.pow 10 width)
  match fractionDigits width (nanos % Nat.pow 10 width) with
  | [] => whole ++ unit
  | fraction => whole ++ "." ++ String.ofList fraction ++ unit

/-- The span in seconds, milliseconds, microseconds or nanoseconds: the first of which it holds at least one. -/
def text (d : Duration) : String :=
  if 1000000000 ≤ d.nanos then inUnit "s" 9 d.nanos
  else if 1000000 ≤ d.nanos then inUnit "ms" 6 d.nanos
  else if 1000 ≤ d.nanos then inUnit "µs" 3 d.nanos
  else inUnit "ns" 0 d.nanos

instance : ToString Duration := ⟨text⟩

example : (ofSeconds 1 1).text = "1.000000001s" := by decide +kernel
example : (Duration.mk 1500000).text = "1.5ms" := by decide +kernel
example : (Duration.mk 0).text = "0ns" := by decide +kernel

end Duration

end Stragglers
