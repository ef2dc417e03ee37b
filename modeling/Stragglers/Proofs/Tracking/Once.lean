import Stragglers.Proofs.Tracking.Lifetime

/-!
# Tasks whose number is taken once

The numbers of a tracker start again when they are used up. Until then (`Few.takenOnce`), and for a task whose number does not
come again also later, there is one call that takes the number, and the task is registered at most once
(`TakenOnce.not_registered_twice`).
-/

namespace Stragglers.Tracking

/-- In this run the number of the task is taken at most once. -/
def TakenOnce (acts : List Act) (h : Handle) : Prop :=
  (start.along numbers acts).count h ≤ 1

variable {w w' : Tracking} {acts acts' : List Act} {a : Act} {h : Handle}

theorem TakenOnce.of_append (honce : TakenOnce (acts ++ acts') h) : TakenOnce acts h := by
  unfold TakenOnce at honce ⊢
  rw [along_append, List.count_append] at honce
  omega

/-- A number that was taken is not taken again. -/
theorem TakenOnce.not_mem_numbers (honce : TakenOnce (acts ++ [a]) h) (hmem : h ∈ start.along numbers acts) :
    h ∉ (start.run acts).numbers a := by
  unfold TakenOnce at honce
  rw [along_concat, List.count_append] at honce
  have hbefore := List.count_pos_iff.mpr hmem
  intro hnow
  have hagain := List.count_pos_iff.mpr hnow
  omega

/-- The number of a task that was taken is not the next one when a number is taken again. -/
theorem TakenOnce.not_nextHandle (honce : TakenOnce (acts ++ [a]) h) (hmem : h ∈ start.along numbers acts) {t : Nat}
    (ha : a.numbers? = some t) : (start.run acts).nextHandle t ≠ h := by
  intro hnext
  exact honce.not_mem_numbers hmem (mem_numbers.mpr ⟨t, ha, hnext.symm⟩)

/-- A run that does not use up the numbers takes none of them twice. -/
theorem Few.takenOnce (hfew : Few acts) (h : Handle) : TakenOnce acts h := by
  unfold TakenOnce
  have hnodup : (start.along numbers acts).Nodup := by
    refine (accounted_run acts hfew).increasing.imp ?_
    rintro g h hlt rfl
    exact UInt64.lt_irrefl _ (hlt rfl)
  exact List.nodup_iff_count.mp hnodup h

/-! ## Registrations -/

/-- What is taken out of a list is counted once less. -/
theorem count_filter_add_le {α : Type} {f : α → Handle} {p : α → Bool} {l : List α} {x : α} (hmem : x ∈ l)
    (hx : p x = false) (h : Handle) : ((l.filter p).map f).count h + [f x].count h ≤ (l.map f).count h := by
  induction l with
  | nil => cases hmem
  | cons y l ih =>
    have hsub : ((l.filter p).map f).count h ≤ (l.map f).count h := (List.filter_sublist.map f).count_le h
    rcases List.mem_cons.mp hmem with rfl | hmem
    · rw [List.filter_cons_of_neg (by simp [hx])]
      simp only [List.map_cons, List.count_cons, List.count_nil]
      omega
    · have ih := ih hmem
      rw [List.filter_cons]
      split <;> simp only [List.map_cons, List.count_cons] at ih ⊢ <;> omega

/-- An act registers a task on behalf of a call that took its number, and this call has then nothing left to register. -/
theorem count_becomes (hb : w.Becomes a w') (h : Handle) :
    (w.registers a).count h + (w'.calling.map (·.task)).count h ≤
      (w.numbers a).count h + (w.calling.map (·.task)).count h := by
  cases hb with
  | same hidle => simp [hidle.registers]
  | called => simp [registers, numbers, Act.numbers?, Nat.add_comm]
  | @registered x c hcalling =>
    obtain ⟨rfl, hmem⟩ := call_of_find? hcalling
    have hle := count_filter_add_le (f := (·.task)) (p := (·.task ≠ c.task)) hmem (by simp) h
    rw [registers_register hcalling]
    show [c.task].count h + ((w.calling.filter (·.task ≠ c.task)).map (·.task)).count h ≤
      0 + (w.calling.map (·.task)).count h
    omega
  | threadLaunched | futureLaunched | launchFailed | threadBegun | threadEnded | pollBegun | pollPending | pollEnded |
      futureDropped | stateEntered | guardDropped | runtimeEnded => exact Nat.add_le_add_right (Nat.zero_le _) _

/-- No more registrations are made under a number than calls took it. -/
theorem count_registers_run (acts : List Act) (h : Handle) :
    (start.along registers acts).count h + ((start.run acts).calling.map (·.task)).count h ≤
      (start.along numbers acts).count h := by
  induction acts using List.reverseRecOn with
  | nil => exact Nat.le_refl _
  | append_singleton acts a ih =>
    have hstep := count_becomes (becomes_step (start.run acts) a) h
    rw [run_concat, along_concat, along_concat, List.count_append, List.count_append]
    omega

/-- A task is not registered twice. -/
theorem TakenOnce.not_registered_twice (honce : TakenOnce (acts ++ [a]) h) (hmem : h ∈ (start.run acts).registers a) :
    h ∉ start.along registers acts := by
  have hle := count_registers_run (acts ++ [a]) h
  unfold TakenOnce at honce
  rw [along_concat registers, List.count_append] at hle
  have hnow := List.count_pos_iff.mpr hmem
  intro hold
  have hbefore := List.count_pos_iff.mpr hold
  omega

/-- A task that is listed has been registered. -/
theorem registered_of_lists (hl : (start.run acts).Lists h) : h ∈ start.along registers acts := by
  rcases lists_or_registers_of_run hl with hstart | hregistered
  · cases hstart
  · exact hregistered

/-- The number of a task that has been registered was taken. -/
theorem mem_numbers_of_registered (hmem : h ∈ start.along registers acts) : h ∈ start.along numbers acts := by
  have hle := count_registers_run acts h
  have hpos := List.count_pos_iff.mpr hmem
  apply List.count_pos_iff.mp
  omega

end Stragglers.Tracking
