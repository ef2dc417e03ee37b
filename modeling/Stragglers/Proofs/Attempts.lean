import Stragglers.Backoff

/-!
# The last attempt

Repeated attempts end at the first one that fails or leaves nothing, and at the last one that the budget allows if there is no
such attempt (`IsLast`). The index of the last attempt decides everything else: `value_run` says what the attempts give, and
`actions_run` what they do, attempt by attempt with a pause behind each but the last.
-/

namespace Stragglers.Backoff

variable {ε α : Type}

/-! ## The index of the last attempt -/

/-- `last` is the least index at which the attempts settle, if there is one within the budget, and the budget otherwise. -/
structure IsLast (settles : Nat → Prop) (budget last : Nat) : Prop where
  le_budget : last ≤ budget
  unsettled : ∀ i < last, ¬settles i
  ends : settles last ∨ last = budget

/-- There is a last attempt. -/
theorem exists_isLast (settles : Nat → Prop) (budget : Nat) : ∃ last, IsLast settles budget last := by
  induction budget with
  | zero => exact ⟨0, Nat.le_refl 0, fun i hi => absurd hi (Nat.not_lt_zero i), Or.inr rfl⟩
  | succ n ih =>
    obtain ⟨k, hle, hbefore, hend⟩ := ih
    by_cases hk : settles k
    · exact ⟨k, Nat.le_succ_of_le hle, hbefore, Or.inl hk⟩
    · have hkn : k = n := hend.resolve_left hk
      subst hkn
      refine ⟨k + 1, Nat.le_refl _, fun i hi => ?_, Or.inr rfl⟩
      rcases Nat.lt_succ_iff_lt_or_eq.mp hi with h | rfl
      · exact hbefore i h
      · exact hk

/-- Attempts that settle wherever others do, within no larger a budget, have their last one no later. -/
theorem IsLast.le_of_imp {settles settles' : Nat → Prop} {budget budget' j k : Nat} (himp : ∀ i, settles i → settles' i)
    (hbudget : budget' ≤ budget) (hj : IsLast settles' budget' j) (hk : IsLast settles budget k) : j ≤ k := by
  rcases Nat.lt_or_ge k j with hlt | hge
  · exfalso
    rcases hk.ends with hs | rfl
    · exact hj.unsettled k hlt (himp k hs)
    · exact absurd (Nat.le_trans hj.le_budget hbudget) (Nat.not_le_of_lt hlt)
  · exact hge

/-- A last attempt comes no later than another one. -/
theorem IsLast.le {settles : Nat → Prop} {budget j k : Nat} (hj : IsLast settles budget j) (hk : IsLast settles budget k) :
    j ≤ k :=
  hj.le_of_imp (fun _ => id) (Nat.le_refl budget) hk

/-- There is only one last attempt. -/
theorem IsLast.unique {settles : Nat → Prop} {budget j k : Nat} (hj : IsLast settles budget j)
    (hk : IsLast settles budget k) : j = k :=
  Nat.le_antisymm (hj.le hk) (hk.le hj)

/-- Attempts that settle alike have the same last one. -/
theorem IsLast.congr {settles settles' : Nat → Prop} {budget k : Nat} (h : ∀ i ≤ k, settles i ↔ settles' i)
    (hk : IsLast settles budget k) : IsLast settles' budget k where
  le_budget := hk.le_budget
  unsettled i hi hs := hk.unsettled i hi ((h i (Nat.le_of_lt hi)).mpr hs)
  ends := hk.ends.imp_left (h k (Nat.le_refl k)).mp

/-- The last attempt is that of a smaller budget too, if it comes within it. -/
theorem IsLast.of_le {settles : Nat → Prop} {budget budget' k : Nat} (h : IsLast settles budget k) (hbudget : budget' ≤ budget)
    (hk : k ≤ budget') : IsLast settles budget' k where
  le_budget := hk
  unsettled := h.unsettled
  ends := h.ends.imp_right fun hend : k = budget => Nat.le_antisymm hk (Nat.le_trans hbudget (Nat.le_of_eq hend.symm))

/-- The last attempt is that of any budget within which it comes, if it settles. -/
theorem IsLast.of_settles {settles : Nat → Prop} {budget budget' k : Nat} (h : IsLast settles budget k) (hsettles : settles k)
    (hk : k ≤ budget') : IsLast settles budget' k where
  le_budget := hk
  unsettled := h.unsettled
  ends := Or.inl hsettles

/-! ## The attempts up to the last one -/

section run

variable (b : Backoff) (attempt : Nat → Traced (Except ε (List α)))

/-- The attempt of this index ends the attempts: it fails, or it leaves nothing. -/
def Settles (index : Nat) : Prop :=
  ∀ remaining, (attempt index).value = .ok remaining → remaining = []

/-- What the attempts give when the one of this index is the last. -/
def outcomeAt (index : Nat) : Except ε (Outcome α) :=
  match (attempt index).value with
  | .error e => .error e
  | .ok [] => .ok (.succeeded (attemptsAt index))
  | .ok remaining => .ok (.exhausted (attemptsAt index) remaining)

/-- The attempt of this index, as it is seen from outside. -/
def attemptActions (index : Nat) : List Action :=
  .attempt index :: (attempt index).actions

/-- The pause behind the attempt of this index. -/
def pauseActions (index : Nat) : List Action :=
  match (attempt index).value with
  | .error _ => []
  | .ok remaining => [.noted (.retrying index remaining.length (b.delay index)), .slept (b.delay index)]

variable {attempt}

/-- An attempt that does not settle leaves something. -/
theorem exists_cons_of_not_settles {index : Nat} (h : ¬Settles attempt index) :
    ∃ a remaining, (attempt index).value = .ok (a :: remaining) := by
  cases hv : (attempt index).value with
  | error e => exact absurd (fun r hr => by rw [hv] at hr; cases hr) h
  | ok remaining =>
    cases remaining with
    | nil => exact absurd (fun r hr => by rw [hv] at hr; cases hr; rfl) h
    | cons a l => exact ⟨a, l, rfl⟩

/-- When the attempt of this index settles, or no retry is left, it is the only one. -/
theorem runFrom_last {index : UInt32} (h : Settles attempt index.toNat ∨ index.toNat = b.maxRetries.toNat) :
    b.runFrom attempt index = ⟨attemptActions attempt index.toNat, outcomeAt attempt index.toNat⟩ := by
  unfold runFrom attemptActions outcomeAt
  cases hv : (attempt index.toNat).value with
  | error e => simp [bind, pure, hv, Traced.act]
  | ok remaining =>
    cases remaining with
    | nil => simp [bind, pure, hv, Traced.act]
    | cons a l =>
      rcases h with h | h
      · exact absurd (h _ hv) (List.cons_ne_nil a l)
      · have hstop : b.shouldRetry index.toNat = false := decide_eq_false (by omega)
        simp [bind, pure, hv, hstop, Traced.act]

/-- When the attempt of this index does not settle and a retry is left, a pause and the attempts from the next index on
follow. -/
theorem runFrom_retry {index : UInt32} (h : ¬Settles attempt index.toNat) (hretry : b.shouldRetry index.toNat = true) :
    b.runFrom attempt index =
      ⟨attemptActions attempt index.toNat ++ b.pauseActions attempt index.toNat ++ (b.runFrom attempt (index + 1)).actions,
        (b.runFrom attempt (index + 1)).value⟩ := by
  obtain ⟨a, l, hv⟩ := exists_cons_of_not_settles h
  rw [runFrom]
  simp [bind, hv, hretry, attemptActions, pauseActions, Traced.act, Traced.note]

/-- The attempts from an index on, when the last of them comes `n` attempts later. -/
theorem runFrom_eq {n : Nat} {index : UInt32} (hn : index.toNat + n ≤ b.maxRetries.toNat)
    (hbefore : ∀ i < n, ¬Settles attempt (index.toNat + i))
    (hend : Settles attempt (index.toNat + n) ∨ index.toNat + n = b.maxRetries.toNat) :
    b.runFrom attempt index =
      ⟨(List.range' index.toNat n).flatMap (fun i => attemptActions attempt i ++ b.pauseActions attempt i) ++
          attemptActions attempt (index.toNat + n),
        outcomeAt attempt (index.toNat + n)⟩ := by
  induction n generalizing index with
  | zero => simpa using runFrom_last b hend
  | succ n ih =>
    have hretry : b.shouldRetry index.toNat = true := decide_eq_true (by omega)
    have hnext : (index + 1).toNat = index.toNat + 1 := toNat_succ_of_shouldRetry hretry
    have hshift : ∀ i, (index + 1).toNat + i = index.toNat + (i + 1) := fun i => by omega
    have hbefore' : ∀ i < n, ¬Settles attempt ((index + 1).toNat + i) := fun i hi => by
      rw [hshift]
      exact hbefore (i + 1) (by omega)
    have hend' : Settles attempt ((index + 1).toNat + n) ∨ (index + 1).toNat + n = b.maxRetries.toNat := by
      rw [hshift]
      exact hend
    have hrest := ih (by omega) hbefore' hend'
    rw [hshift, hnext] at hrest
    have hfirst : ¬Settles attempt index.toNat := hbefore 0 (by omega)
    rw [runFrom_retry b hfirst hretry, hrest]
    simp [List.range'_succ]

/-- The attempts from the first one on are known from the last. -/
theorem run_eq {last : Nat} (h : IsLast (Settles attempt) b.maxRetries.toNat last) :
    b.run attempt =
      ⟨(List.range last).flatMap (fun i => attemptActions attempt i ++ b.pauseActions attempt i) ++
          attemptActions attempt last,
        outcomeAt attempt last⟩ := by
  have hzero : ∀ i, (0 : UInt32).toNat + i = i := Nat.zero_add
  have hbefore : ∀ i < last, ¬Settles attempt ((0 : UInt32).toNat + i) := fun i hi => by
    rw [hzero]
    exact h.unsettled i hi
  have hend : Settles attempt ((0 : UInt32).toNat + last) ∨ (0 : UInt32).toNat + last = b.maxRetries.toNat := by
    rw [hzero]
    exact h.ends
  have hle : (0 : UInt32).toNat + last ≤ b.maxRetries.toNat := (hzero last).symm ▸ h.le_budget
  have hrun := runFrom_eq b hle hbefore hend
  rw [run, hrun, hzero, List.range_eq_range', UInt32.toNat_zero]

variable {b}

/-- The last attempt decides what the attempts give. -/
theorem value_run {last : Nat} (h : IsLast (Settles attempt) b.maxRetries.toNat last) :
    (b.run attempt).value = outcomeAt attempt last := by
  rw [run_eq b h]

/-- The attempts are made in their order, with a pause behind each but the last. -/
theorem actions_run {last : Nat} (h : IsLast (Settles attempt) b.maxRetries.toNat last) :
    (b.run attempt).actions =
      (List.range last).flatMap (fun i => attemptActions attempt i ++ b.pauseActions attempt i) ++
        attemptActions attempt last := by
  rw [run_eq b h]

/-- What holds of all that single attempts do, of their beginnings, and of what is told and done between two of them, holds of all
that the attempts do. -/
theorem forall_mem_actions_run {P : Action → Prop} (hbegin : ∀ i, P (.attempt i))
    (hattempt : ∀ i, ∀ a ∈ (attempt i).actions, P a) (hretrying : ∀ i left pause, P (.noted (.retrying i left pause)))
    (hslept : ∀ pause, P (.slept pause)) : ∀ a ∈ (b.run attempt).actions, P a := by
  obtain ⟨last, hlast⟩ := exists_isLast (Settles attempt) b.maxRetries.toNat
  have hmade : ∀ i, ∀ a ∈ attemptActions attempt i, P a := fun i => List.forall_mem_cons.mpr ⟨hbegin i, hattempt i⟩
  have hpause : ∀ i, ∀ a ∈ b.pauseActions attempt i, P a := by
    intro i
    unfold pauseActions
    cases (attempt i).value <;> simp [hretrying, hslept]
  rw [actions_run hlast, List.forall_mem_append]
  refine ⟨fun a ha => ?_, hmade last⟩
  obtain ⟨i, -, ha⟩ := List.mem_flatMap.mp ha
  exact (List.mem_append.mp ha).elim (hmade i a) (hpause i a)

end run

end Stragglers.Backoff
