import Stragglers.Notice

/-!
# Traces

A computation together with what it did on the way. `Traced` is the value and the list of actions, the first one first; two
computations in sequence do the actions of both (`actions_bind`).
-/

namespace Stragglers

/-- Something that a check does and that can be seen from outside. -/
inductive Action where
  /-- An attempt of this index begins. -/
  | attempt (index : Nat)
  /-- A snapshot is asked of the source. -/
  | snapshot
  /-- A pause between two attempts. -/
  | slept (pause : Duration)
  /-- A notice is given. -/
  | noted (notice : Notice)
  /-- The suite of tests runs. -/
  | ran
  /-- A line is written to the error output. -/
  | printed (line : String)
  /-- The cleanup of this name is called with a code. -/
  | cleaned (cleanup : String) (code : Int32)
deriving DecidableEq, Repr

/-- A value, and the actions that led to it. -/
structure Traced (α : Type) where
  actions : List Action
  value : α
deriving Repr

namespace Traced

variable {α β : Type}

instance : Monad Traced where
  pure a := ⟨[], a⟩
  bind t f := ⟨t.actions ++ (f t.value).actions, (f t.value).value⟩

/-- One action. -/
def act (a : Action) : Traced Unit :=
  ⟨[a], ()⟩

/-- One notice. -/
def note (n : Notice) : Traced Unit :=
  act (.noted n)

/-- Notices one after the other. -/
def noteAll (ns : List Notice) : Traced Unit :=
  ⟨ns.map .noted, ()⟩

/-- The notices of a trace. -/
def notices (t : Traced α) : List Notice :=
  t.actions.filterMap fun
    | .noted n => some n
    | _ => none

/-- The pauses of a trace. -/
def sleeps (t : Traced α) : List Duration :=
  t.actions.filterMap fun
    | .slept d => some d
    | _ => none

/-- The indices of the attempts of a trace. -/
def attempts (t : Traced α) : List Nat :=
  t.actions.filterMap fun
    | .attempt i => some i
    | _ => none

/-- How many snapshots a trace takes. -/
def snapshots (t : Traced α) : Nat :=
  t.actions.count .snapshot

@[simp] theorem actions_pure (a : α) : (pure a : Traced α).actions = [] := rfl

@[simp] theorem value_pure (a : α) : (pure a : Traced α).value = a := rfl

@[simp] theorem actions_bind (t : Traced α) (f : α → Traced β) : (t >>= f).actions = t.actions ++ (f t.value).actions := rfl

@[simp] theorem value_bind (t : Traced α) (f : α → Traced β) : (t >>= f).value = (f t.value).value := rfl

@[simp] theorem actions_act (a : Action) : (act a).actions = [a] := rfl

@[simp] theorem actions_note (n : Notice) : (note n).actions = [.noted n] := rfl

@[simp] theorem actions_noteAll (ns : List Notice) : (noteAll ns).actions = ns.map .noted := rfl

end Traced

end Stragglers
