import Stragglers.Trace

/-!
# Repeated attempts

An attempt gives the things that are left to wait for. As long as there are any and the budget of retries is not used up,
another attempt follows after a pause, each pause twice as long as the one before and none longer than a bound.

```text
             nothing left      ┌───────────┐
   attempt ──────────────────▶ │ succeeded │
     ▲  │                      └───────────┘
     │  │    no retry left     ┌───────────┐
     │  ├────────────────────▶ │ exhausted │
     └──┘                      └───────────┘
     pause
```
-/

namespace Stragglers

/-- How repeated attempts end without an error. -/
inductive Outcome (α : Type) where
  /-- The last of so many attempts left nothing. -/
  | succeeded (attempts : Nat)
  /-- After so many attempts these were left by the last. -/
  | exhausted (attempts : Nat) (remaining : List α)
deriving DecidableEq, Repr

namespace Outcome

variable {α : Type}

/-- How many attempts were made. -/
def attempts : Outcome α → Nat
  | .succeeded n => n
  | .exhausted n _ => n

/-- The last attempt left nothing. -/
def isSuccess : Outcome α → Bool
  | .succeeded _ => true
  | .exhausted _ _ => false

end Outcome

/-- How often and after what pauses attempts are repeated. -/
structure Backoff where
  maxRetries : UInt32
  maxSleep : Duration
deriving DecidableEq, Repr

namespace Backoff

/-- The number of retries when none is asked for. -/
def defaultMaxRetries : UInt32 := 20

/-- The longest pause when none is asked for. -/
def defaultMaxSleep : Duration := .ofMillis 100

/-- The bounds when none are asked for. -/
def default : Backoff := ⟨defaultMaxRetries, defaultMaxSleep⟩

/-- The microseconds of the first pause. -/
def firstMicros : UInt64 := 1

/-- The largest number of microseconds that a pause is counted in. -/
def maxMicros : UInt64 := UInt64.ofNat (UInt64.size - 1)

/-- The largest number of attempts that is counted. -/
def maxAttempts : Nat := UInt32.size - 1

/-- A word with its bits moved up by so many places; nothing if a word has not so many. -/
def shiftUp? (word : UInt64) (places : Nat) : Option UInt64 :=
  if places < 64 then some (word <<< UInt64.ofNat places) else none

/-- The microseconds of the first pause doubled so often; nothing if moving the bits back does not give them again. -/
def doubled? (times : Nat) : Option UInt64 :=
  (shiftUp? firstMicros times).filter fun word => word >>> UInt64.ofNat times == firstMicros

/-- The pause behind the attempt of this index: a microsecond, doubled at each attempt and cut at the bound. -/
def delay (b : Backoff) (index : Nat) : Duration :=
  min (.ofMicros ((doubled? index).getD maxMicros).toNat) b.maxSleep

/-- Another attempt may follow the one of this index. -/
def shouldRetry (b : Backoff) (index : Nat) : Bool :=
  decide (index < b.maxRetries.toNat)

/-- As long as another attempt may follow, there is a next index. -/
theorem toNat_succ_of_shouldRetry {b : Backoff} {index : UInt32} (h : b.shouldRetry index.toNat = true) :
    (index + 1).toNat = index.toNat + 1 := by
  have hlt : index.toNat < b.maxRetries.toNat := of_decide_eq_true h
  have hword : b.maxRetries.toNat < UInt32.size := b.maxRetries.toNat_lt_size
  rw [UInt32.toNat_add]
  exact Nat.mod_eq_of_lt (Nat.lt_of_le_of_lt hlt hword)

/-- How many attempts have been made when the one of this index is over. -/
def attemptsAt (index : Nat) : Nat :=
  min (index + 1) maxAttempts

variable {ε α : Type}

/-- The attempts from this index on. -/
def runFrom (b : Backoff) (attempt : Nat → Traced (Except ε (List α))) (index : UInt32) :
    Traced (Except ε (Outcome α)) := do
  Traced.act (.attempt index.toNat)
  match ← attempt index.toNat with
  | .error e => return .error e
  | .ok [] => return .ok (.succeeded (attemptsAt index.toNat))
  | .ok remaining =>
    if hretry : b.shouldRetry index.toNat then
      Traced.note (.retrying index.toNat remaining.length (b.delay index.toNat))
      Traced.act (.slept (b.delay index.toNat))
      b.runFrom attempt (index + 1)
    else return .ok (.exhausted (attemptsAt index.toNat) remaining)
termination_by b.maxRetries.toNat - index.toNat
decreasing_by
  have hnext := toNat_succ_of_shouldRetry hretry
  have hlt : index.toNat < b.maxRetries.toNat := of_decide_eq_true hretry
  omega

/-- The attempts from the first one on; an error ends them. -/
def run (b : Backoff) (attempt : Nat → Traced (Except ε (List α))) : Traced (Except ε (Outcome α)) :=
  b.runFrom attempt 0

end Backoff

end Stragglers
