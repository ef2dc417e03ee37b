import Mathlib.Algebra.Group.Action.Defs
import Mathlib.Algebra.Order.BigOperators.Group.List
import Mathlib.Algebra.Order.Ring.Nat
import Stragglers.Proofs.Attempts
import Stragglers.Proofs.Pauses

/-!
# Attempts within a budget

Attempts are repeated by a loop that counts them in words of 32 bits. It makes no attempt behind the last one, which the budget
bounds, so the count never runs out of words; between two attempts it makes one pause, and none behind the last
(`run_stops_at_last_attempt`).
-/

namespace Stragglers

/-- The action is one by which attempts are repeated: an attempt begins, or a pause is made. -/
def Action.isRepetition : Action → Bool
  | .attempt _ | .slept _ => true
  | .snapshot | .noted _ | .ran | .printed _ | .cleaned _ _ => false

/-- The pauses of a trace are those among its repetitions. -/
theorem Traced.sleeps_repetitions {α : Type} (t : Traced α) :
    Traced.sleeps ⟨t.actions.filter Action.isRepetition, t.value⟩ = t.sleeps := by
  rw [Traced.sleeps, Traced.sleeps, List.filterMap_filter]
  congr 1
  funext a
  cases a <;> rfl

namespace Backoff

variable {ε α : Type} {b : Backoff} {attempt : Nat → Traced (Except ε (List α))} {last : Nat}

/-- The pauses behind the attempts before the last one. -/
def pauses (b : Backoff) (last : Nat) : List Duration :=
  (List.range last).map b.delay

/-- The attempts themselves begin no attempts and make no pauses. -/
def Plain (attempt : Nat → Traced (Except ε (List α))) : Prop :=
  ∀ i, (attempt i).actions.filter Action.isRepetition = []

/-! ## The last attempt -/

/-- An attempt before the last one leaves something. -/
theorem IsLast.exists_remaining (h : IsLast (Settles attempt) b.maxRetries.toNat last) {i : Nat} (hi : i < last) :
    ∃ remaining, (attempt i).value = .ok remaining ∧ remaining ≠ [] := by
  obtain ⟨a, l, hv⟩ := exists_cons_of_not_settles (h.unsettled i hi)
  exact ⟨a :: l, hv, List.cons_ne_nil a l⟩

/-- An error of the last attempt is passed on. -/
theorem IsLast.value_run_error (h : IsLast (Settles attempt) b.maxRetries.toNat last) {e : ε}
    (hv : (attempt last).value = .error e) : (b.run attempt).value = .error e := by
  rw [value_run h, outcomeAt, hv]

/-- If the last attempt leaves nothing, the attempts succeed. -/
theorem IsLast.value_run_nil (h : IsLast (Settles attempt) b.maxRetries.toNat last) (hv : (attempt last).value = .ok []) :
    (b.run attempt).value = .ok (.succeeded (min (last + 1) (UInt32.size - 1))) := by
  rw [value_run h, outcomeAt, hv]
  rfl

/-- If the last attempt leaves something, the budget is used up, and what it leaves is what remains. -/
theorem IsLast.value_run_cons (h : IsLast (Settles attempt) b.maxRetries.toNat last) {remaining : List α}
    (hv : (attempt last).value = .ok remaining) (hne : remaining ≠ []) :
    last = b.maxRetries.toNat ∧
      (b.run attempt).value = .ok (.exhausted (min (last + 1) (UInt32.size - 1)) remaining) := by
  have hunsettled : ¬Settles attempt last := fun hs => hne (hs remaining hv)
  refine ⟨h.ends.resolve_left hunsettled, ?_⟩
  rw [value_run h, outcomeAt, hv]
  cases remaining with
  | nil => exact absurd rfl hne
  | cons a l => rfl

/-- Before the last attempt the word that counts the attempts has a next one. -/
theorem IsLast.toNat_succ (h : IsLast (Settles attempt) b.maxRetries.toNat last) {index : UInt32} (hi : index.toNat < last) :
    (index + 1).toNat = index.toNat + 1 := by
  have hbudget : index.toNat < b.maxRetries.toNat := Nat.lt_of_lt_of_le hi h.le_budget
  exact toNat_succ_of_shouldRetry (decide_eq_true hbudget)

/-- The loop comes to each index up to the last one, behind the attempts before it, and counts it in a word that holds it. -/
theorem IsLast.exists_run_eq_runFrom (h : IsLast (Settles attempt) b.maxRetries.toNat last) {i : Nat} (hi : i ≤ last) :
    ∃ index : UInt32, index.toNat = i ∧
      b.run attempt =
        ⟨(List.range i).flatMap (fun j => attemptActions attempt j ++ b.pauseActions attempt j) ++
            (b.runFrom attempt index).actions,
          (b.runFrom attempt index).value⟩ := by
  induction i with
  | zero => exact ⟨0, rfl, rfl⟩
  | succ i ih =>
    obtain ⟨index, rfl, hrun⟩ := ih (Nat.le_of_succ_le hi)
    have hretry : b.shouldRetry index.toNat = true := decide_eq_true (Nat.lt_of_lt_of_le hi h.le_budget)
    refine ⟨index + 1, h.toNat_succ hi, ?_⟩
    rw [hrun, runFrom_retry b (h.unsettled _ hi) hretry, List.range_succ, List.flatMap_append]
    simp

/-! ## Attempts and pauses in their order -/

/-- Behind an attempt before the last one there is one pause. -/
theorem IsLast.exists_pauseActions (h : IsLast (Settles attempt) b.maxRetries.toNat last) {i : Nat} (hi : i < last) :
    ∃ left, b.pauseActions attempt i = [.noted (.retrying i left (b.delay i)), .slept (b.delay i)] := by
  obtain ⟨remaining, hv, -⟩ := h.exists_remaining hi
  exact ⟨remaining.length, by rw [pauseActions, hv]⟩

/-- Plain attempts follow each other with one pause between any two, and none behind the last. -/
theorem IsLast.repetitions_run (h : IsLast (Settles attempt) b.maxRetries.toNat last) (hplain : Plain attempt) :
    (b.run attempt).actions.filter Action.isRepetition =
      (List.range last).flatMap (fun i => [.attempt i, .slept (b.delay i)]) ++ [.attempt last] := by
  have hattempt : ∀ i, (attemptActions attempt i).filter Action.isRepetition = [.attempt i] := fun i => by
    have hself : Action.isRepetition (.attempt i) = true := rfl
    rw [attemptActions, List.filter_cons_of_pos hself, hplain i]
  have hround : ∀ i ∈ List.range last,
      (attemptActions attempt i ++ b.pauseActions attempt i).filter Action.isRepetition =
        [.attempt i, .slept (b.delay i)] := by
    intro i hi
    obtain ⟨left, hpause⟩ := h.exists_pauseActions (List.mem_range.mp hi)
    rw [List.filter_append, hattempt, hpause]
    rfl
  rw [actions_run h, List.filter_append, hattempt, List.filter_flatMap, List.flatMap_def, List.flatMap_def,
    List.map_congr_left hround]

/-- The pauses between plain attempts. -/
theorem IsLast.sleeps_run (h : IsLast (Settles attempt) b.maxRetries.toNat last) (hplain : Plain attempt) :
    (b.run attempt).sleeps = b.pauses last := by
  rw [← Traced.sleeps_repetitions, h.repetitions_run hplain, pauses, List.map_eq_flatMap]
  simp [Traced.sleeps, List.filterMap_flatMap]

/-! ## The length of the pauses -/

/-- No pause is shorter than one before it. -/
theorem pairwise_pauses (b : Backoff) (last : Nat) : (b.pauses last).Pairwise (· ≤ ·) := by
  rw [pauses, List.pairwise_map]
  exact List.pairwise_le_range.imp fun hle => delay_le_delay b hle

/-- All pauses together are no longer than as many of the longest. -/
theorem sum_nanos_pauses_le (b : Backoff) (last : Nat) : ((b.pauses last).map (·.nanos)).sum ≤ last * b.maxSleep.nanos := by
  have hbound : ∀ nanos ∈ (b.pauses last).map (·.nanos), nanos ≤ b.maxSleep.nanos := by
    intro nanos hnanos
    obtain ⟨pause, hpause, rfl⟩ := List.mem_map.mp hnanos
    obtain ⟨i, -, rfl⟩ := List.mem_map.mp hpause
    exact delay_le_maxSleep b i
  have hlength : ((b.pauses last).map (·.nanos)).length = last := by
    rw [List.length_map, pauses, List.length_map, List.length_range]
  have hsum := List.sum_le_card_nsmul _ _ hbound
  rwa [hlength, smul_eq_mul] at hsum

/-- Attempts are made from the first index on up to a last one within the budget. Each before it leaves something; the last fails,
leaves nothing, or is the last that the budget allows. Its error, or success, or what it leaves is what the attempts give, with
their number, which is counted in a word of 32 bits. They are made in their order, each once, with a pause between any two that is
no shorter than those before it, and all pauses together are no longer than as many of the longest. The loop comes to each of them
with its index in a word of 32 bits, and before the last one the next word is that of the next index. -/
theorem run_stops_at_last_attempt (b : Backoff) (attempt : Nat → Traced (Except ε (List α))) :
    ∃ last ≤ b.maxRetries.toNat,
      (∀ i < last, ∃ remaining, (attempt i).value = .ok remaining ∧ remaining ≠ []) ∧
      (∀ e, (attempt last).value = .error e → (b.run attempt).value = .error e) ∧
      ((attempt last).value = .ok [] →
        (b.run attempt).value = .ok (.succeeded (min (last + 1) (UInt32.size - 1)))) ∧
      (∀ remaining, (attempt last).value = .ok remaining → remaining ≠ [] →
        last = b.maxRetries.toNat ∧
          (b.run attempt).value = .ok (.exhausted (min (last + 1) (UInt32.size - 1)) remaining)) ∧
      (b.run attempt).actions =
        (List.range last).flatMap (fun i => attemptActions attempt i ++ b.pauseActions attempt i) ++
          attemptActions attempt last ∧
      (∀ i < last, ∃ left, b.pauseActions attempt i = [.noted (.retrying i left (b.delay i)), .slept (b.delay i)]) ∧
      (Plain attempt → (b.run attempt).actions.filter Action.isRepetition =
        (List.range last).flatMap (fun i => [.attempt i, .slept (b.delay i)]) ++ [.attempt last]) ∧
      (Plain attempt → (b.run attempt).sleeps = b.pauses last) ∧
      (b.pauses last).Pairwise (· ≤ ·) ∧
      ((b.pauses last).map (·.nanos)).sum ≤ last * b.maxSleep.nanos ∧
      ∀ i ≤ last, ∃ index : UInt32, index.toNat = i ∧ (i < last → (index + 1).toNat = i + 1) ∧
        b.run attempt =
          ⟨(List.range i).flatMap (fun j => attemptActions attempt j ++ b.pauseActions attempt j) ++
              (b.runFrom attempt index).actions,
            (b.runFrom attempt index).value⟩ := by
  obtain ⟨last, hlast⟩ := exists_isLast (Settles attempt) b.maxRetries.toNat
  refine ⟨last, hlast.le_budget, fun i => hlast.exists_remaining, fun e => hlast.value_run_error, hlast.value_run_nil,
    fun remaining => hlast.value_run_cons, actions_run hlast, fun i => hlast.exists_pauseActions, hlast.repetitions_run,
    hlast.sleeps_run, pairwise_pauses b last, sum_nanos_pauses_le b last, fun i hi => ?_⟩
  obtain ⟨index, rfl, hrun⟩ := hlast.exists_run_eq_runFrom hi
  exact ⟨index, rfl, hlast.toNat_succ, hrun⟩

end Backoff

end Stragglers
