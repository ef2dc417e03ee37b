import Stragglers.Tracking.Registry

/-!
# Entries of a registry

What putting a task in, replacing a state and taking a task out do to the entries. A registry whose numbers strictly increase
(`Ordered`) keeps this through every change; that a number is new (`Below`) holds as long as the numbers are not used up.
-/

namespace Stragglers.Registry

/-- The numbers of the tasks strictly increase. -/
def Ordered (r : Registry) : Prop :=
  r.ids.Pairwise fun a b => a.val < b.val

/-- All numbers of tasks are below the next one to be given. -/
def Below (r : Registry) : Prop :=
  ∀ id ∈ r.ids, id.val < r.next

/-! ## Numbers -/

@[simp] theorem ids_empty : empty.ids = [] := rfl

@[simp] theorem next_setState (r : Registry) (id : TaskId) (state : String) : (r.setState id state).next = r.next := rfl

@[simp] theorem next_insert (r : Registry) (id : TaskId) (state : String) (frames : List Frame) :
    (r.insert id state frames).next = r.next := rfl

@[simp] theorem next_takeNumber (r : Registry) : r.takeNumber.1.next = r.next + 1 := rfl

@[simp] theorem ids_takeNumber (r : Registry) : r.takeNumber.1.ids = r.ids := rfl

/-- Taking tasks out takes their numbers away. -/
theorem ids_filter (r : Registry) (keep : TaskId → Bool) :
    ids { r with entries := r.entries.filter fun e => keep e.1 } = r.ids.filter keep := by
  simp only [ids, List.filter_map]
  rfl

/-- Taking a task out takes its number away. -/
@[simp] theorem ids_remove (r : Registry) (id : TaskId) : (r.remove id).ids = r.ids.filter (· ≠ id) :=
  ids_filter r (· ≠ id)

/-- Replacing a state leaves the numbers as they are. -/
@[simp] theorem ids_setState (r : Registry) (id : TaskId) (state : String) : (r.setState id state).ids = r.ids := by
  simp only [ids, setState, List.map_map]
  refine List.map_congr_left fun e _ => ?_
  simp only [Function.comp_apply]
  split <;> rfl

/-- An entry that is put in adds its number. -/
theorem mem_map_insertEntry {i id : TaskId} {e : Registered} {l : List (TaskId × Registered)} :
    i ∈ (insertEntry id e l).map (·.1) ↔ i = id ∨ i ∈ l.map (·.1) := by
  induction l with
  | nil => simp [insertEntry]
  | cons f l ih =>
    obtain ⟨j, f⟩ := f
    unfold insertEntry
    by_cases hlt : id.val < j.val
    · rw [if_pos hlt]
      simp
    · rw [if_neg hlt]
      by_cases heq : id = j
      · subst heq
        simp
      · rw [if_neg heq]
        simp only [List.map_cons, List.mem_cons] at ih ⊢
        rw [ih, or_left_comm]

/-- Putting an entry in adds no other. -/
theorem mem_insertEntry {x : TaskId × Registered} {id : TaskId} {e : Registered} {l : List (TaskId × Registered)}
    (hx : x ∈ insertEntry id e l) : x = (id, e) ∨ x ∈ l := by
  induction l with
  | nil => exact Or.inl (List.mem_singleton.mp hx)
  | cons f l ih =>
    obtain ⟨j, f⟩ := f
    unfold insertEntry at hx
    split at hx
    · exact List.mem_cons.mp hx
    · split at hx
      · exact (List.mem_cons.mp hx).imp_right (List.mem_cons_of_mem _)
      · rcases List.mem_cons.mp hx with rfl | hx
        · exact Or.inr List.mem_cons_self
        · exact (ih hx).imp_right (List.mem_cons_of_mem _)

/-- Putting a task in adds its number. -/
theorem mem_ids_insert {r : Registry} {id : TaskId} {state : String} {frames : List Frame} {i : TaskId} :
    i ∈ (r.insert id state frames).ids ↔ i = id ∨ i ∈ r.ids :=
  mem_map_insertEntry

/-! ## Order -/

theorem ordered_empty : empty.Ordered := List.Pairwise.nil

theorem Ordered.filter {r : Registry} (h : r.Ordered) (keep : TaskId → Bool) :
    Ordered { r with entries := r.entries.filter fun e => keep e.1 } := by
  unfold Ordered
  rw [ids_filter]
  exact List.Pairwise.filter _ h

theorem Ordered.setState {r : Registry} (h : r.Ordered) (id : TaskId) (state : String) : (r.setState id state).Ordered := by
  unfold Ordered
  rw [ids_setState]
  exact h

/-- An entry is put in at its place. -/
theorem pairwise_insertEntry {id : TaskId} {e : Registered} {l : List (TaskId × Registered)}
    (h : (l.map (·.1)).Pairwise fun a b => a.val < b.val) :
    ((insertEntry id e l).map (·.1)).Pairwise fun a b => a.val < b.val := by
  induction l with
  | nil => simp [insertEntry]
  | cons f l ih =>
    obtain ⟨j, f⟩ := f
    simp only [List.map_cons, List.pairwise_cons] at h
    obtain ⟨hj, hl⟩ := h
    unfold insertEntry
    by_cases hlt : id.val < j.val
    · rw [if_pos hlt]
      simp only [List.map_cons, List.pairwise_cons, List.mem_cons, forall_eq_or_imp]
      exact ⟨⟨hlt, fun i hi => UInt64.lt_trans hlt (hj i hi)⟩, hj, hl⟩
    · rw [if_neg hlt]
      by_cases heq : id = j
      · subst heq
        rw [if_pos rfl]
        simp only [List.map_cons, List.pairwise_cons]
        exact ⟨hj, hl⟩
      · rw [if_neg heq]
        simp only [List.map_cons, List.pairwise_cons]
        refine ⟨fun i hi => ?_, ih hl⟩
        rcases mem_map_insertEntry.mp hi with rfl | hi
        · have hne : j.val ≠ i.val := fun hval => heq (congrArg TaskId.mk hval).symm
          exact UInt64.lt_of_le_of_ne (UInt64.not_lt.mp hlt) hne
        · exact hj i hi

theorem Ordered.insert {r : Registry} (h : r.Ordered) (id : TaskId) (state : String) (frames : List Frame) :
    (r.insert id state frames).Ordered :=
  pairwise_insertEntry h

/-! ## Numbers that are new -/

theorem below_empty : empty.Below := fun _ h => absurd h (by simp)

theorem Below.filter {r : Registry} (h : r.Below) (keep : TaskId → Bool) :
    Below { r with entries := r.entries.filter fun e => keep e.1 } := by
  intro i hi
  rw [ids_filter] at hi
  exact h i (List.mem_filter.mp hi).1

theorem Below.setState {r : Registry} (h : r.Below) (id : TaskId) (state : String) : (r.setState id state).Below := by
  intro i hi
  rw [ids_setState] at hi
  exact h i hi

/-- A task whose number has been given can be put in. -/
theorem Below.insert {r : Registry} {id : TaskId} (h : r.Below) (hid : id.val < r.next) (state : String)
    (frames : List Frame) : (r.insert id state frames).Below := by
  intro i hi
  rcases mem_ids_insert.mp hi with rfl | hi
  · exact hid
  · exact h i hi

/-- The next number grows as long as the numbers are not used up. -/
theorem lt_next_takeNumber {r : Registry} (hroom : r.next.toNat + 1 < UInt64.size) : r.next < r.takeNumber.1.next := by
  rw [next_takeNumber, UInt64.lt_iff_toNat_lt, UInt64.toNat_add]
  simp only [UInt64.size] at hroom
  simp
  omega

/-- A registry stays below its next number as long as the numbers are not used up. -/
theorem Below.takeNumber {r : Registry} (h : r.Below) (hroom : r.next.toNat + 1 < UInt64.size) : r.takeNumber.1.Below :=
  fun i hi => UInt64.lt_trans (h i hi) (lt_next_takeNumber hroom)

/-! ## Tasks that are not registered -/

theorem filter_of_not_mem {id : TaskId} {l : List (TaskId × Registered)} (h : id ∉ l.map (·.1)) :
    l.filter (fun f => f.1 ≠ id) = l :=
  List.filter_eq_self.mpr fun _ hf => decide_eq_true fun heq => h (heq ▸ List.mem_map_of_mem hf)

/-- Replacing the state of a task that is not registered changes nothing. -/
theorem setState_of_not_mem {r : Registry} {id : TaskId} (h : id ∉ r.ids) (state : String) : r.setState id state = r := by
  have hkeep : r.entries.map (fun e => if e.1 = id then (e.1, { e.2 with state := state }) else e) = r.entries := by
    refine (List.map_congr_left fun e he => ?_).trans (List.map_id _)
    have hne : e.1 ≠ id := fun heq => h (heq ▸ List.mem_map_of_mem he)
    exact if_neg hne
  simp only [setState, hkeep]

/-- An entry that is put in under a new number joins the others, which keep their order. -/
theorem filter_insertEntry {id : TaskId} {e : Registered} {l : List (TaskId × Registered)} (h : id ∉ l.map (·.1)) :
    (insertEntry id e l).filter (fun f => f.1 ≠ id) = l := by
  induction l with
  | nil => simp [insertEntry]
  | cons f l ih =>
    obtain ⟨j, f⟩ := f
    have hne : id ≠ j := fun heq => h (List.mem_map.mpr ⟨(j, f), List.mem_cons_self, heq.symm⟩)
    have hl : id ∉ l.map (·.1) := fun hmem => h (List.mem_cons_of_mem _ hmem)
    unfold insertEntry
    by_cases hlt : id.val < j.val
    · rw [if_pos hlt, List.filter_cons_of_neg (by simp)]
      exact filter_of_not_mem h
    · have hkeep : decide (j ≠ id) = true := decide_eq_true hne.symm
      rw [if_neg hlt, if_neg hne, List.filter_cons, if_pos hkeep, ih hl]

/-- Putting in a task that is not registered and taking it out again changes nothing. -/
theorem remove_insert {r : Registry} {id : TaskId} (h : id ∉ r.ids) (state : String) (frames : List Frame) :
    (r.insert id state frames).remove id = r := by
  have hfilter := filter_insertEntry (e := ⟨state, frames⟩) h
  simp only [remove, insert, hfilter]

/-! ## States -/

/-- A task has a state if it is registered. -/
theorem isSome_state?_iff {r : Registry} {id : TaskId} : (r.state? id).isSome ↔ id ∈ r.ids := by
  simp only [state?, ids, Option.isSome_map, List.find?_isSome, List.mem_map, decide_eq_true_eq]

@[simp] theorem state?_takeNumber (r : Registry) (id : TaskId) : r.takeNumber.1.state? id = r.state? id := rfl

/-- An entry that is put in is found under its number. -/
theorem find?_insertEntry_self (id : TaskId) (e : Registered) (l : List (TaskId × Registered)) :
    (insertEntry id e l).find? (fun f => f.1 = id) = some (id, e) := by
  induction l with
  | nil => simp [insertEntry]
  | cons f l ih =>
    obtain ⟨j, f⟩ := f
    unfold insertEntry
    by_cases hlt : id.val < j.val
    · rw [if_pos hlt]
      simp
    · rw [if_neg hlt]
      by_cases heq : id = j
      · rw [if_pos heq]
        simp
      · rw [if_neg heq, List.find?_cons_of_neg (by simpa using Ne.symm heq), ih]

/-- An entry that is put in hides no other. -/
theorem find?_insertEntry_other {i id : TaskId} (hi : i ≠ id) (e : Registered) (l : List (TaskId × Registered)) :
    (insertEntry id e l).find? (fun f => f.1 = i) = l.find? fun f => f.1 = i := by
  have hskip : ∀ l' : List (TaskId × Registered), ((id, e) :: l').find? (fun f => f.1 = i) = l'.find? fun f => f.1 = i :=
    fun l' => List.find?_cons_of_neg (by simpa using Ne.symm hi)
  induction l with
  | nil => rw [insertEntry, hskip]
  | cons f l ih =>
    obtain ⟨j, f⟩ := f
    unfold insertEntry
    by_cases hlt : id.val < j.val
    · rw [if_pos hlt, hskip]
    · rw [if_neg hlt]
      by_cases heq : id = j
      · subst heq
        rw [if_pos rfl, hskip, List.find?_cons_of_neg (by simpa using Ne.symm hi)]
      · rw [if_neg heq, List.find?_cons, List.find?_cons, ih]

/-- A task is put in with its state. -/
theorem state?_insert_self (r : Registry) (id : TaskId) (state : String) (frames : List Frame) :
    (r.insert id state frames).state? id = some state := by
  rw [state?, insert, find?_insertEntry_self]
  rfl

/-- Putting a task in leaves the states of others as they are. -/
theorem state?_insert_other {i id : TaskId} (hi : i ≠ id) (r : Registry) (state : String) (frames : List Frame) :
    (r.insert id state frames).state? i = r.state? i := by
  rw [state?, insert, find?_insertEntry_other hi, state?]

/-- The state of a task is replaced if it is registered, and the states of others are not. -/
theorem state?_setState (r : Registry) (id i : TaskId) (state : String) :
    (r.setState id state).state? i = if i = id then (r.state? i).map fun _ => state else r.state? i := by
  -- an entry keeps its number, so the entry that is found is the one that was found before, with its state replaced
  have hfind : (r.setState id state).entries.find? (fun e => e.1 = i) =
      (r.entries.find? fun e => e.1 = i).map fun e => if e.1 = id then (e.1, { e.2 with state := state }) else e := by
    rw [setState, List.find?_map]
    refine congrArg (Option.map _) (congrArg (List.find? · _) (funext fun e => ?_))
    rw [Function.comp_apply]
    split <;> rfl
  rw [state?, hfind, Option.map_map, state?]
  cases hf : r.entries.find? fun e => e.1 = i with
  | none => simp
  | some f =>
    have hid : f.1 = i := of_decide_eq_true (List.find?_some (p := fun e : TaskId × Registered => e.1 = i) hf)
    by_cases hi : i = id
    · simp [hid, hi]
    · simp [hid, hi]

/-- Taking tasks out leaves the states of those kept as they are. -/
theorem state?_filter (r : Registry) (keep : TaskId → Bool) {id : TaskId} (hkeep : keep id = true) :
    state? { r with entries := r.entries.filter fun e => keep e.1 } id = r.state? id := by
  have hboth : (fun e : TaskId × Registered => decide (keep e.1 = true ∧ decide (e.1 = id) = true)) =
      fun e => decide (e.1 = id) := by
    funext e
    by_cases he : e.1 = id
    · simp [he, hkeep]
    · simp [he]
  rw [state?, List.find?_filter, hboth, state?]

/-! ## Records -/

/-- The records carry the numbers of the entries, in their order. -/
theorem map_id_records (r : Registry) : r.records.map (·.id) = r.ids := by
  simp only [records, ids, List.map_map]
  rfl

theorem length_records (r : Registry) : r.records.length = r.size := by
  simp only [records, size, List.length_map]

/-- The records of an ordered registry are in the order of their numbers. -/
theorem pairwise_records {r : Registry} (h : r.Ordered) : r.records.Pairwise fun x y => x.id.val < y.id.val := by
  rw [Ordered, ← map_id_records, List.pairwise_map] at h
  exact h

/-- A record shows the state that the registry has for its task. -/
theorem state?_eq_find?_records (r : Registry) (id : TaskId) :
    r.state? id = (r.records.find? fun t => t.id = id).map (·.state) := by
  rw [state?, records, List.find?_map, Option.map_map]
  rfl

/-- A record shows the number, the state and the frames of an entry. -/
theorem mem_records {r : Registry} {t : TaskRecord} :
    t ∈ r.records ↔ ∃ e, (t.id, e) ∈ r.entries ∧ t = TaskRecord.of t.id e.state e.frames := by
  simp only [records, List.mem_map]
  constructor
  · rintro ⟨⟨id, e⟩, he, rfl⟩
    exact ⟨e, he, rfl⟩
  · rintro ⟨e, he, ht⟩
    exact ⟨(t.id, e), he, ht.symm⟩

/-- In an ordered registry a record shows the state of its own task. -/
theorem state?_of_mem_records {r : Registry} (h : r.Ordered) {t : TaskRecord} (ht : t ∈ r.records) :
    r.state? t.id = some t.state := by
  obtain ⟨before, later, heq⟩ := List.append_of_mem ht
  have hlt := pairwise_records h
  rw [heq, List.pairwise_append] at hlt
  have hbefore : before.find? (fun x => x.id = t.id) = none := by
    refine List.find?_eq_none.mpr fun x hx hid => ?_
    have hval : x.id.val = t.id.val := congrArg TaskId.val (of_decide_eq_true hid)
    exact UInt64.ne_of_lt (hlt.2.2 x hx t List.mem_cons_self) hval
  rw [state?_eq_find?_records, heq, List.find?_append, hbefore, Option.none_or]
  simp

end Stragglers.Registry
