import Mathlib.Data.List.Induction
import Stragglers.Proofs.Tracking.Invariant

/-!
# From registration to end

A run is looked at through what its acts did: the numbers that were taken, the tasks that were registered, and those whose
registrations were dropped. `Accounted` says how these relate to each other and to the registries; one act keeps it
(`Accounted.step`), and so it holds after every run that does not use up the numbers (`accounted_run`).
-/

namespace Stragglers.Tracking

/-! ## Runs -/

/-- What the acts of a run did, one after the other. -/
def along {β : Type} (did : Tracking → Act → List β) (w : Tracking) : List Act → List β
  | [] => []
  | a :: acts => did w a ++ along did (w.step a).1 acts

/-- No tracker's numbers are used up. -/
def Few (acts : List Act) : Prop :=
  ∀ t, acts.countP (·.numbers? = some t) < UInt64.size - 1

/-- The numbers of this tracker are not used up. -/
def FewOf (t : Nat) (acts : List Act) : Prop :=
  acts.countP (·.numbers? = some t) < UInt64.size - 1

theorem run_concat (w : Tracking) (acts : List Act) (a : Act) : w.run (acts ++ [a]) = ((w.run acts).step a).1 := by
  simp only [run, List.foldl_append, List.foldl_cons, List.foldl_nil]

theorem run_append (w : Tracking) (acts acts' : List Act) : w.run (acts ++ acts') = (w.run acts).run acts' :=
  List.foldl_append

theorem along_append {β : Type} (did : Tracking → Act → List β) (w : Tracking) (acts acts' : List Act) :
    w.along did (acts ++ acts') = w.along did acts ++ (w.run acts).along did acts' := by
  induction acts generalizing w with
  | nil => simp [along, run]
  | cons b acts ih =>
    rw [List.cons_append, along, along, ih, List.append_assoc]
    rfl

theorem along_concat {β : Type} (did : Tracking → Act → List β) (w : Tracking) (acts : List Act) (a : Act) :
    w.along did (acts ++ [a]) = w.along did acts ++ did (w.run acts) a := by
  rw [along_append, along, along, List.append_nil]

/-- The beginning of a run takes no more numbers of a tracker than all of it. -/
theorem FewOf.of_append {t : Nat} {acts acts' : List Act} (hfew : FewOf t (acts ++ acts')) : FewOf t acts := by
  have h : (acts ++ acts').countP (·.numbers? = some t) < UInt64.size - 1 := hfew
  rw [List.countP_append] at h
  exact Nat.lt_of_le_of_lt (Nat.le_add_right _ _) h

/-- The beginning of a run takes no more numbers than all of it. -/
theorem Few.of_append {acts acts' : List Act} (hfew : Few (acts ++ acts')) : Few acts :=
  fun t => (show FewOf t (acts ++ acts') from hfew t).of_append

/-- The next number of a tracker counts the numbers that were taken. -/
theorem next_run (acts : List Act) {t : Nat} (hfew : FewOf t acts) :
    ((start.run acts).registry t).next.toNat = acts.countP (·.numbers? = some t) + 1 := by
  induction acts using List.reverseRecOn with
  | nil => rfl
  | append_singleton acts a ih =>
    have ih := ih hfew.of_append
    rw [run_concat, next_becomes (becomes_step _ a)]
    rw [FewOf, List.countP_append, List.countP_singleton] at hfew
    rw [List.countP_append, List.countP_singleton]
    by_cases hn : a.numbers? = some t
    · simp only [hn, decide_true, if_true] at hfew ⊢
      rw [UInt64.toNat_add, ih, Nat.mod_eq_of_lt]
      · rfl
      · exact Nat.lt_sub_iff_add_lt.mp hfew
    · simp only [hn, decide_false, if_false]
      exact ih

/-- A tracker whose numbers a run does not use up has room for each act of it. -/
theorem hasRoomAt_run (acts : List Act) (a : Act) {t : Nat} (hfew : FewOf t (acts ++ [a])) :
    (start.run acts).HasRoomAt t a := by
  intro hn
  rw [next_run acts hfew.of_append]
  rw [FewOf, List.countP_append, List.countP_singleton] at hfew
  simp only [hn, decide_true, if_true] at hfew
  omega

/-- In a run that does not use up the numbers there is room for each act. -/
theorem hasRoom_run (acts : List Act) (a : Act) (hfew : Few (acts ++ [a])) : (start.run acts).HasRoom a :=
  fun t => hasRoomAt_run acts a (hfew t)

/-- The trackers are sound after every run that does not use up the numbers. -/
theorem sound_run (acts : List Act) (hfew : Few acts) : (start.run acts).Sound := by
  induction acts using List.reverseRecOn with
  | nil => exact sound_start
  | append_singleton acts a ih =>
    rw [run_concat]
    exact sound_step (ih hfew.of_append) (hasRoom_run acts a hfew)

/-- A tracker whose numbers a run does not use up keeps them as they should be, whatever the others do. -/
theorem fresh_run (acts : List Act) {t : Nat} (hfew : FewOf t acts) : (start.run acts).Fresh t := by
  induction acts using List.reverseRecOn with
  | nil => exact sound_start.fresh t
  | append_singleton acts a ih =>
    rw [run_concat]
    exact (ih hfew.of_append).becomes (becomes_step _ a) (hasRoomAt_run acts a hfew)

/-! ## What one act did -/

section act

variable {w w' : Tracking} {a : Act} {h : Handle}

theorem mem_numbers : h ∈ w.numbers a ↔ ∃ t, a.numbers? = some t ∧ h = w.nextHandle t := by
  rw [numbers, Option.mem_toList, Option.map_eq_some_iff]
  exact exists_congr fun t => and_congr_right' eq_comm

/-- The numbers that one act takes of a tracker increase, since there is at most one. -/
theorem nodup_numbers : (w.numbers a).Pairwise fun g h => g.tracker = h.tracker → g.task.val < h.task.val := by
  rw [numbers]
  cases a.numbers? with
  | none => exact List.Pairwise.nil
  | some t => exact List.pairwise_singleton _ _

/-- Only a call that has taken a number registers its task. -/
theorem exists_call_of_registers (hmem : h ∈ w.registers a) : ∃ c ∈ w.calling, c.task = h := by
  cases a with
  | register x =>
    rw [registers, Option.mem_toList, Option.map_eq_some_iff] at hmem
    obtain ⟨c, hfind, rfl⟩ := hmem
    exact ⟨c, (call_of_find? hfind).2, rfl⟩
  | _ => cases hmem

/-- An act registers a task only once. -/
theorem nodup_registers : (w.registers a).Nodup := by
  cases a with
  | register x =>
    rw [registers]
    cases w.calling.find? (·.task = x) with
    | none => exact List.nodup_nil
    | some c => exact List.pairwise_singleton _ _
  | _ => exact List.nodup_nil

/-- What an act drops is held by one holder. -/
theorem exists_holder_of_drops (w : Tracking) (a : Act) : ∃ o, (w.drops a).Sublist (w.heldBy o) := by
  have htop : ∀ {n b h outer rest}, (w.thread n).active = ⟨b, h, outer⟩ :: rest → [h].Sublist (w.heldBy (.thread n)) := by
    intro n b h outer rest hactive
    refine List.singleton_sublist.mpr (List.mem_append_left _ ?_)
    exact List.mem_map_of_mem (mem_active hactive)
  cases a with
  | launch x granted =>
    refine ⟨.callers, ?_⟩
    rw [drops]
    cases hfind : w.launching.find? (·.task = x) with
    | none => exact List.nil_sublist _
    | some c =>
      have hmem : c.task ∈ w.heldBy .callers := List.mem_map_of_mem (call_of_find? hfind).2
      rw [Option.filter_some]
      split
      · exact List.singleton_sublist.mpr hmem
      · exact List.nil_sublist _
  | endThread n =>
    refine ⟨.thread n, ?_⟩
    rw [drops]
    split
    · rename_i hactive
      exact htop hactive
    · exact List.nil_sublist _
  | endPoll n pending =>
    refine ⟨.thread n, ?_⟩
    cases pending with
    | true => exact List.nil_sublist _
    | false =>
      rw [drops]
      split
      · rename_i hactive
        exact htop hactive
      · exact List.nil_sublist _
  | dropFuture f =>
    refine ⟨.runtime, ?_⟩
    rw [drops]
    cases hfuture : w.futures.lookup f with
    | none => exact List.nil_sublist _
    | some h => exact List.singleton_sublist.mpr (List.mem_map_of_mem (mem_of_lookup hfuture))
  | shutdown => exact ⟨.runtime, List.Sublist.refl _⟩
  | _ => exact ⟨.runtime, List.nil_sublist _⟩

/-- What an act drops is listed. -/
theorem Sound.lists_of_drops (hs : w.Sound) (hmem : h ∈ w.drops a) : w.Lists h := by
  obtain ⟨o, hsub⟩ := exists_holder_of_drops w a
  exact (hs.custody.listed h).mp ⟨o, hsub.subset hmem⟩

/-- An act drops no registration twice. -/
theorem Sound.nodup_drops (hs : w.Sound) (a : Act) : (w.drops a).Nodup := by
  obtain ⟨o, hsub⟩ := exists_holder_of_drops w a
  exact (hs.custody.nodup o).sublist hsub

end act

/-! ## What a run did -/

/-- How the numbers taken, the tasks registered and those dropped so far relate to each other and to the registries. -/
structure Accounted (w : Tracking) (numbered registered dropped : List Handle) : Prop where
  /-- A registry lists the tasks registered and not dropped. -/
  lists : ∀ h, w.Lists h ↔ h ∈ registered ∧ h ∉ dropped
  /-- The numbers taken from one tracker increase. -/
  increasing : numbered.Pairwise fun g h => g.tracker = h.tracker → g.task.val < h.task.val
  /-- The numbers taken are below the next one. -/
  past : ∀ h ∈ numbered, h.task.val < (w.registry h.tracker).next
  /-- A call has taken a number and has not registered its task. -/
  called : ∀ c ∈ w.calling, c.task ∈ numbered ∧ c.task ∉ registered
  /-- A task is registered under a number that was taken. -/
  known : ∀ h ∈ registered, h ∈ numbered
  registeredOnce : registered.Nodup
  /-- A registration that is dropped has been made. -/
  made : ∀ h ∈ dropped, h ∈ registered
  droppedOnce : dropped.Nodup

/-- In the beginning there is nothing to account for. -/
theorem accounted_start : Accounted start [] [] [] where
  lists h := by
    constructor
    · intro hl
      cases hl
    · rintro ⟨hr, -⟩
      cases hr
  increasing := List.Pairwise.nil
  past h hmem := by cases hmem
  called c hmem := by cases hmem
  known h hmem := by cases hmem
  registeredOnce := List.nodup_nil
  made h hmem := by cases hmem
  droppedOnce := List.nodup_nil

/-- One act keeps the account. -/
theorem Accounted.step {w : Tracking} {numbered registered dropped : List Handle} (h : Accounted w numbered registered dropped)
    (hs : w.Sound) {a : Act} (hroom : w.HasRoom a) :
    Accounted (w.step a).1 (numbered ++ w.numbers a) (registered ++ w.registers a) (dropped ++ w.drops a) := by
  have hb := becomes_step w a
  generalize (w.step a).1 = w' at hb
  -- what is registered now was numbered and not registered before, and what is dropped now was registered and not dropped
  have hnew : ∀ x ∈ w.registers a, x ∈ numbered ∧ x ∉ registered := by
    intro x hx
    obtain ⟨c, hc, rfl⟩ := exists_call_of_registers hx
    exact h.called c hc
  have hlive : ∀ x ∈ w.drops a, x ∈ registered ∧ x ∉ dropped := fun x hx => (h.lists x).mp (hs.lists_of_drops hx)
  have hpast : ∀ x ∈ numbered, ∀ t, x ≠ w.nextHandle t := by
    rintro x hx t rfl
    exact UInt64.lt_irrefl _ (h.past _ hx)
  refine ⟨fun x => ?_, ?_, fun x hx => ?_, fun c hc => ?_, fun x hx => ?_, ?_, fun x hx => ?_, ?_⟩
  · rw [lists_becomes hb, h.lists, List.mem_append, List.mem_append, not_or]
    constructor
    · rintro (hx | ⟨⟨hr, hd⟩, hx⟩)
      · exact ⟨Or.inr hx, fun hd => (hnew x hx).2 (h.made x hd), fun hd => (hnew x hx).2 (hlive x hd).1⟩
      · exact ⟨Or.inl hr, hd, hx⟩
    · rintro ⟨hr | hx, hd, hx'⟩
      · exact Or.inr ⟨⟨hr, hd⟩, hx'⟩
      · exact Or.inl hx
  · rw [List.pairwise_append]
    refine ⟨h.increasing, nodup_numbers, fun x hx y hy htracker => ?_⟩
    obtain ⟨t, -, rfl⟩ := mem_numbers.mp hy
    have hlt := h.past x hx
    rw [htracker] at hlt
    exact hlt
  · rcases List.mem_append.mp hx with hx | hx
    · exact UInt64.lt_of_lt_of_le (h.past x hx) (next_le_becomes hb (hroom _))
    · obtain ⟨t, hn, rfl⟩ := mem_numbers.mp hx
      exact next_lt_becomes hb (hroom _) hn
  · have hidle := not_mem_registers hb hc
    rcases calling_of_becomes hb hc with hc | ⟨t, hn, htask⟩
    · obtain ⟨hn, hr⟩ := h.called c hc
      exact ⟨List.mem_append_left _ hn, fun hx => (List.mem_append.mp hx).elim hr hidle⟩
    · refine ⟨List.mem_append_right _ (mem_numbers.mpr ⟨t, hn, htask⟩), fun hx => ?_⟩
      exact (List.mem_append.mp hx).elim (fun hr => hpast _ (h.known _ hr) t htask) hidle
  · rcases List.mem_append.mp hx with hx | hx
    · exact List.mem_append_left _ (h.known x hx)
    · exact List.mem_append_left _ (hnew x hx).1
  · rw [List.nodup_append]
    exact ⟨h.registeredOnce, nodup_registers, fun x hx y hy heq => (hnew y hy).2 (heq ▸ hx)⟩
  · rcases List.mem_append.mp hx with hx | hx
    · exact List.mem_append_left _ (h.made x hx)
    · exact List.mem_append_left _ (hlive x hx).1
  · rw [List.nodup_append]
    exact ⟨h.droppedOnce, hs.nodup_drops a, fun x hx y hy heq => (hlive y hy).2 (heq ▸ hx)⟩

/-- A task that is listed after a run was listed before, or has been registered since. -/
theorem lists_or_registers_of_run {w : Tracking} {h : Handle} {later : List Act} (hl : (w.run later).Lists h) :
    w.Lists h ∨ h ∈ w.along registers later := by
  induction later using List.reverseRecOn with
  | nil => exact Or.inl hl
  | append_singleton later a ih =>
    rw [run_concat] at hl
    rw [along_concat]
    rcases (lists_becomes (becomes_step _ a)).mp hl with hnew | ⟨hold, -⟩
    · exact Or.inr (List.mem_append_right _ hnew)
    · exact (ih hold).imp_right (List.mem_append_left _)

/-- The account holds after every run that does not use up the numbers. -/
theorem accounted_run (acts : List Act) (hfew : Few acts) :
    Accounted (start.run acts) (start.along numbers acts) (start.along registers acts) (start.along drops acts) := by
  induction acts using List.reverseRecOn with
  | nil => exact accounted_start
  | append_singleton acts a ih =>
    rw [run_concat, along_concat, along_concat, along_concat]
    exact (ih hfew.of_append).step (sound_run acts hfew.of_append) (hasRoom_run acts a hfew)

end Stragglers.Tracking
