import Stragglers.Task.Basic

/-!
# Rules

A rule says of which tasks it expects to find them alive, under a label. Of a list of rules the first that matches a task
gives its label, and a task that any rule matches is expected.
-/

namespace Stragglers

/-- A labelled test of tasks. -/
structure Rule where
  label : String
  holds : TaskRecord → Bool

namespace Rule

/-- The rule of this label that no task meets. -/
def inert (label : String) : Rule :=
  ⟨label, fun _ => false⟩

/-- The rule for tasks whose number is in the list. -/
def ofIds (ids : List TaskId) : Rule :=
  ⟨"baseline of " ++ toString ids.eraseDups.length ++ " tasks", fun t => ids.contains t.id⟩

/-- Some rule matches the task. -/
def anyMatch (rules : List Rule) (t : TaskRecord) : Bool :=
  rules.any (·.holds t)

/-- The label of the first rule that matches the task. -/
def firstMatch? (rules : List Rule) (t : TaskRecord) : Option String :=
  (rules.find? (·.holds t)).map (·.label)

/-- A rule matches exactly when there is a first one that does. -/
theorem isSome_firstMatch? (rules : List Rule) (t : TaskRecord) : (firstMatch? rules t).isSome = anyMatch rules t := by
  induction rules with
  | nil => rfl
  | cons r rs ih =>
    simp only [firstMatch?, anyMatch, Option.isSome_map, List.find?_cons, List.any_cons] at ih ⊢
    cases r.holds t with
    | true => rfl
    | false => simpa using ih

/-- The rule for a list of numbers matches by number alone. -/
theorem holds_ofIds {ids : List TaskId} {t : TaskRecord} : (ofIds ids).holds t = true ↔ t.id ∈ ids :=
  List.contains_iff_mem

end Rule

end Stragglers
