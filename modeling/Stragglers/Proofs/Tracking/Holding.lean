import Stragglers.Proofs.Tracking.Step

/-!
# Who holds a registration

A task is registered for as long as something holds its registration: the call that spawns it, the thread that is to run it or
runs it, or the runtime while its future waits for a poll. `Custody` says that nothing is held twice and that what is held is
what is listed. It is kept when a task that is new is gained and listed, when one is lost and no longer listed, and when one is
handed over; and what acts do to the holders is one of these.
-/

namespace Stragglers

/-- What can hold the registrations of tasks. -/
inductive Holder where
  /-- Each call that spawns holds the task that it has registered. -/
  | callers
  /-- A thread holds its own task, from the launch on, and the tasks that it polls. -/
  | thread (n : Nat)
  /-- The runtime holds the async tasks that are not being polled. -/
  | runtime
deriving DecidableEq, Repr

/-- The tasks that a thread holds. -/
def ThreadState.handles (s : ThreadState) : List Handle :=
  s.active.map (·.task) ++ s.waiting.toList

/-! ## Holding nothing twice -/

/-- Nothing is held twice, neither by one holder nor by two, and what is held is what is listed. -/
structure Custody (held : Holder → List Handle) (lists : Handle → Prop) : Prop where
  nodup : ∀ o, (held o).Nodup
  apart : ∀ {o o' h}, h ∈ held o → h ∈ held o' → o = o'
  listed : ∀ h, (∃ o, h ∈ held o) ↔ lists h

/-- One holder holds one task more, and all else is held as before. -/
structure Gains (held held' : Holder → List Handle) (o : Holder) (h : Handle) : Prop where
  perm : (held' o).Perm (h :: held o)
  other : ∀ o', o' ≠ o → held' o' = held o'

section custody

variable {held held' rest : Holder → List Handle} {lists lists' : Handle → Prop} {o q : Holder} {h : Handle}

theorem Gains.mem_iff (hg : Gains held held' o h) {x : Handle} {p : Holder} :
    x ∈ held' p ↔ (x = h ∧ p = o) ∨ x ∈ held p := by
  by_cases hp : p = o
  · subst hp
    rw [hg.perm.mem_iff, List.mem_cons, and_iff_left rfl]
  · rw [hg.other p hp]
    simp [hp]

/-- What is held after a gain is the task gained and what was held before. -/
theorem Gains.exists_iff (hg : Gains held held' o h) {x : Handle} : (∃ p, x ∈ held' p) ↔ x = h ∨ ∃ p, x ∈ held p := by
  constructor
  · rintro ⟨p, hx⟩
    exact (hg.mem_iff.mp hx).imp And.left fun hx => ⟨p, hx⟩
  · rintro (rfl | ⟨p, hx⟩)
    · exact ⟨o, hg.mem_iff.mpr (Or.inl ⟨rfl, rfl⟩)⟩
    · exact ⟨p, hg.mem_iff.mpr (Or.inr hx)⟩

/-- A task that is not listed can be gained and listed. -/
theorem Custody.gain (hc : Custody held lists) (hg : Gains held held' o h) (hnew : ¬lists h)
    (hlists : ∀ x, lists' x ↔ x = h ∨ lists x) : Custody held' lists' where
  nodup p := by
    by_cases hp : p = o
    · subst hp
      rw [hg.perm.nodup_iff, List.nodup_cons]
      exact ⟨fun hmem => hnew ((hc.listed h).mp ⟨p, hmem⟩), hc.nodup p⟩
    · rw [hg.other p hp]
      exact hc.nodup p
  apart {p q x} hp hq := by
    rcases hg.mem_iff.mp hp with ⟨rfl, rfl⟩ | hp'
    · rcases hg.mem_iff.mp hq with ⟨-, rfl⟩ | hq'
      · rfl
      · exact absurd ((hc.listed x).mp ⟨q, hq'⟩) hnew
    · rcases hg.mem_iff.mp hq with ⟨rfl, rfl⟩ | hq'
      · exact absurd ((hc.listed x).mp ⟨p, hp'⟩) hnew
      · exact hc.apart hp' hq'
  listed x := by rw [hg.exists_iff, hc.listed, hlists]

/-- Before a gain nothing held the task. -/
theorem Custody.not_mem_of_gains (hc : Custody held' lists) (hg : Gains held held' o h) (p : Holder) : h ∉ held p := by
  intro hmem
  have heq : p = o := hc.apart (hg.mem_iff.mpr (Or.inr hmem)) (hg.mem_iff.mpr (Or.inl ⟨rfl, rfl⟩))
  subst heq
  exact (List.nodup_cons.mp (hg.perm.nodup_iff.mp (hc.nodup p))).1 hmem

/-- A task can be given up and listed no more. -/
theorem Custody.lose (hc : Custody held' lists) (hg : Gains held held' o h) (hlists : ∀ x, lists' x ↔ x ≠ h ∧ lists x) :
    Custody held lists' where
  nodup p := by
    by_cases hp : p = o
    · subst hp
      exact (List.nodup_cons.mp (hg.perm.nodup_iff.mp (hc.nodup p))).2
    · rw [← hg.other p hp]
      exact hc.nodup p
  apart hp hq := hc.apart (hg.mem_iff.mpr (Or.inr hp)) (hg.mem_iff.mpr (Or.inr hq))
  listed x := by
    rw [hlists, ← hc.listed, hg.exists_iff]
    constructor
    · rintro ⟨p, hx⟩
      exact ⟨fun heq => hc.not_mem_of_gains hg p (heq ▸ hx), Or.inr ⟨p, hx⟩⟩
    · rintro ⟨hne, hx⟩
      exact hx.resolve_left hne

/-- A task can be handed over. -/
theorem Custody.move (hc : Custody held lists) (hg : Gains rest held o h) (hg' : Gains rest held' q h)
    (hlists : ∀ x, lists' x ↔ lists x) : Custody held' lists' := by
  have hheld : lists h := (hc.listed h).mp ⟨o, hg.mem_iff.mpr (Or.inl ⟨rfl, rfl⟩)⟩
  refine (hc.lose hg (fun x => Iff.rfl)).gain hg' (fun hmem => hmem.1 rfl) fun x => ?_
  rw [hlists]
  by_cases hx : x = h
  · subst hx
    simp [hheld]
  · simp [hx]

/-- Holders may hold the same tasks in another order. -/
theorem Custody.perm (hc : Custody held lists) (hp : ∀ p, (held' p).Perm (held p)) (hlists : ∀ x, lists' x ↔ lists x) :
    Custody held' lists' where
  nodup p := (hp p).nodup_iff.mpr (hc.nodup p)
  apart h₁ h₂ := hc.apart ((hp _).mem_iff.mp h₁) ((hp _).mem_iff.mp h₂)
  listed x := by
    rw [hlists, ← hc.listed]
    exact exists_congr fun p => (hp p).mem_iff

/-- A holder can give up all that it holds. -/
theorem Custody.clear (hc : Custody held lists) (hnone : held' o = []) (hother : ∀ p, p ≠ o → held' p = held p)
    (hlists : ∀ x, lists' x ↔ x ∉ held o ∧ lists x) : Custody held' lists' := by
  have hmem : ∀ {p x}, x ∈ held' p ↔ p ≠ o ∧ x ∈ held p := by
    intro p x
    by_cases hp : p = o
    · subst hp
      simp [hnone]
    · simp [hother p hp, hp]
  refine ⟨fun p => ?_, fun h₁ h₂ => hc.apart (hmem.mp h₁).2 (hmem.mp h₂).2, fun x => ?_⟩
  · by_cases hp : p = o
    · subst hp
      exact hnone ▸ List.nodup_nil
    · exact hother p hp ▸ hc.nodup p
  · rw [hlists, ← hc.listed]
    constructor
    · rintro ⟨p, hx⟩
      obtain ⟨hp, hx⟩ := hmem.mp hx
      exact ⟨fun hx' => hp (hc.apart hx hx'), p, hx⟩
    · rintro ⟨hno, p, hx⟩
      exact ⟨p, hmem.mpr ⟨fun hp => hno (hp ▸ hx), hx⟩⟩

end custody

/-! ## What the trackers' holders hold -/

namespace Tracking

/-- The tasks that a holder holds. -/
def heldBy (w : Tracking) : Holder → List Handle
  | .callers => w.launching.map (·.task)
  | .thread n => (w.thread n).handles
  | .runtime => w.futures.map (·.2)

/-- The registration of the task lives: something holds it. -/
def Holds (w : Tracking) (h : Handle) : Prop :=
  ∃ o, h ∈ w.heldBy o

section moves

variable {w w' : Tracking} {h : Handle} {n f : Nat}

/-- A holder of which nothing has changed holds what it held. -/
theorem heldBy_eq {o : Holder} (hlaunching : o = .callers → w'.launching = w.launching)
    (hthread : ∀ m, o = .thread m → w'.thread m = w.thread m) (hfutures : o = .runtime → w'.futures = w.futures) :
    w'.heldBy o = w.heldBy o := by
  cases o with
  | callers => exact congrArg (List.map (·.task)) (hlaunching rfl)
  | thread m => exact congrArg ThreadState.handles (hthread m rfl)
  | runtime => exact congrArg (List.map (·.2)) (hfutures rfl)

theorem gains_thread (hlaunching : w'.launching = w.launching) (hfutures : w'.futures = w.futures)
    (hother : ∀ m, m ≠ n → w'.thread m = w.thread m) (hp : (w'.thread n).handles.Perm (h :: (w.thread n).handles)) :
    Gains w.heldBy w'.heldBy (.thread n) h where
  perm := hp
  other _ ho := heldBy_eq (fun _ => hlaunching) (fun m hm => hother m fun heq => ho (heq ▸ hm)) fun _ => hfutures

theorem gains_runtime (hlaunching : w'.launching = w.launching) (hthread : w'.thread = w.thread)
    (hp : (w'.futures.map (·.2)).Perm (h :: w.futures.map (·.2))) : Gains w.heldBy w'.heldBy .runtime h where
  perm := hp
  other _ ho := heldBy_eq (fun _ => hlaunching) (fun m _ => congrFun hthread m) fun heq => absurd heq ho

theorem gains_callers (hfutures : w'.futures = w.futures) (hthread : w'.thread = w.thread)
    (hp : (w'.launching.map (·.task)).Perm (h :: w.launching.map (·.task))) : Gains w.heldBy w'.heldBy .callers h where
  perm := hp
  other _ ho := heldBy_eq (fun heq => absurd heq ho) (fun m _ => congrFun hthread m) fun _ => hfutures

theorem setThread_other (s : ThreadState) {m : Nat} (hm : m ≠ n) : (w.setThread n s).thread m = w.thread m :=
  if_neg hm

theorem setThread_self (s : ThreadState) : (w.setThread n s).thread n = s :=
  if_pos rfl

/-- A call that has registered its task is one of those that launch. -/
theorem gains_call {c : Call} (hfutures : w'.futures = w.futures) (hthread : w'.thread = w.thread)
    (hlaunching : w'.launching = w.launching ++ [c]) : Gains w.heldBy w'.heldBy .callers c.task := by
  refine gains_callers hfutures hthread ?_
  rw [hlaunching, List.map_append]
  exact List.perm_append_singleton _ _

/-- A future that is handed over waits. -/
theorem gains_future (hlaunching : w'.launching = w.launching) (hthread : w'.thread = w.thread)
    (hfutures : w'.futures = w.futures ++ [(f, h)]) : Gains w.heldBy w'.heldBy .runtime h := by
  refine gains_runtime hlaunching hthread ?_
  rw [hfutures, List.map_append]
  exact List.perm_append_singleton _ _

/-- The begin of a poll is a gain of the thread. -/
theorem gains_poll {slot outer : Option Handle} :
    Gains w.heldBy (w.setThread n
      { w.thread n with slot := slot, active := ⟨.poll f, h, outer⟩ :: (w.thread n).active }).heldBy (.thread n) h := by
  refine gains_thread rfl rfl (fun m hm => setThread_other _ hm) ?_
  rw [setThread_self]
  exact List.Perm.refl _

/-- A thread that begins runs the task for which it waited. -/
theorem perm_beginThread {slot outer : Option Handle} (hwaiting : (w.thread n).waiting = some h) (o : Holder) :
    ((w.setThread n ⟨slot, ⟨.thread, h, outer⟩ :: (w.thread n).active, none⟩).heldBy o).Perm (w.heldBy o) := by
  cases o with
  | callers | runtime => exact List.Perm.refl _
  | thread m =>
    by_cases hm : m = n
    · subst hm
      simp only [heldBy, setThread_self, ThreadState.handles, hwaiting, List.map_cons, Option.toList_none, List.append_nil,
        Option.toList_some]
      exact (List.perm_append_singleton _ _).symm
    · simp only [heldBy, setThread_other _ hm]
      exact List.Perm.refl _

/-- Among elements with different keys, one can be taken out by its key. -/
theorem perm_cons_filter {α β : Type} [DecidableEq β] {key : α → β} {l : List α} {a : α} (hmem : a ∈ l)
    (hnodup : (l.map key).Nodup) : l.Perm (a :: l.filter fun b => key b ≠ key a) := by
  induction l with
  | nil => cases hmem
  | cons b l ih =>
    rw [List.map_cons, List.nodup_cons] at hnodup
    obtain ⟨hb, hl⟩ := hnodup
    rcases List.mem_cons.mp hmem with rfl | hmem
    · have hkeep : l.filter (fun b => key b ≠ key a) = l := List.filter_eq_self.mpr fun c hc =>
        decide_eq_true fun heq => hb (List.mem_map.mpr ⟨c, hc, heq⟩)
      rw [List.filter_cons_of_neg (by simp), hkeep]
    · have hkeep : decide (key b ≠ key a) = true :=
        decide_eq_true fun heq => hb (List.mem_map.mpr ⟨a, hmem, heq.symm⟩)
      rw [List.filter_cons, if_pos hkeep]
      exact ((ih hmem hl).cons b).trans (List.Perm.swap a b _)

/-- A call that is found is taken from those that launch. -/
theorem gains_withoutLaunching {c : Call} (hcalls : (w.launching.map (·.task)).Nodup)
    (hlaunching : w.launching.find? (·.task = h) = some c) :
    Gains { w with launching := w.launching.filter (·.task ≠ h) }.heldBy w.heldBy .callers c.task := by
  obtain ⟨rfl, hmem⟩ := call_of_find? hlaunching
  exact gains_callers rfl rfl ((perm_cons_filter hmem hcalls).map (·.task))

/-- What is looked up under a number stands in the list. -/
theorem mem_of_lookup {α : Type} {x : α} {l : List (Nat × α)} (hx : l.lookup n = some x) : (n, x) ∈ l := by
  obtain ⟨l₁, l₂, hl, -⟩ := List.lookup_eq_some_iff.mp hx
  rw [hl]
  simp

/-- What stands in the list under one of its different numbers is looked up under it. -/
theorem lookup_of_mem {α : Type} {x : α} {l : List (Nat × α)} (hkeys : (l.map (·.1)).Nodup) (hmem : (n, x) ∈ l) :
    l.lookup n = some x := by
  induction l with
  | nil => cases hmem
  | cons e l ih =>
    obtain ⟨k, y⟩ := e
    rw [List.map_cons, List.nodup_cons] at hkeys
    rcases List.mem_cons.mp hmem with heq | hmem
    · cases heq
      exact List.lookup_cons_self
    · have hskip : (n == k) = false := by
        refine beq_false_of_ne fun hnk => hkeys.1 ?_
        exact List.mem_map.mpr ⟨(n, x), hmem, hnk⟩
      rw [List.lookup_cons, hskip]
      exact ih hkeys.2 hmem

/-- A future that is looked up is taken from those that wait. -/
theorem gains_withoutFuture (hkeys : (w.futures.map (·.1)).Nodup) (hfuture : w.futures.lookup f = some h) :
    Gains (w.withoutFuture f).heldBy w.heldBy .runtime h :=
  gains_runtime rfl rfl ((perm_cons_filter (mem_of_lookup hfuture) hkeys).map (·.2))

/-- A thread on which a body or a poll ends holds its task no more. -/
theorem handles_pop {s : ThreadState} {b : Body} {outer : Option Handle} {rest : List Activation} (slot : Option Handle)
    (hactive : s.active = ⟨b, h, outer⟩ :: rest) :
    s.handles = h :: ({ s with slot := slot, active := rest } : ThreadState).handles := by
  simp only [ThreadState.handles, hactive, List.map_cons, List.cons_append]

/-- The end of what runs on a thread is a loss of the thread. -/
theorem gains_pop {b : Body} {outer : Option Handle} {rest : List Activation}
    (hactive : (w.thread n).active = ⟨b, h, outer⟩ :: rest) :
    Gains (w.setThread n { w.thread n with slot := outer, active := rest }).heldBy w.heldBy (.thread n) h := by
  refine gains_thread rfl rfl (fun m hm => (setThread_other _ hm).symm) ?_
  rw [setThread_self, handles_pop outer hactive]

end moves

end Tracking

end Stragglers
