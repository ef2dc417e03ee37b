import Stragglers.Proofs.Json.Reading

/-!
# Where a JSON text ends

A text that stands for a value goes on with nothing but space, or, if the value is a number, with more of its characters (`Ended`).
So a text that goes on to a closing brace stands for no value where it is cut before that brace (`read?_of_cut`), and nothing but
space may follow an array or an object (`read?_append_of_not_spaces`).
-/

namespace Stragglers.Json

/-- The text of the value ends in a closing mark. -/
def Value.IsContainer : Value → Prop
  | .array _ | .object _ => True
  | _ => False

namespace Reading

variable {r next last : Reading} {c : Char} {cs : List Char} {stack : List Enclosing} {v : Value}

/-- Nothing encloses what has been read: it is a value, or a number that may go on. -/
inductive Ended : Reading → Prop where
  | value (stack : List Enclosing) (v : Value) : Ended ⟨stack, .nothing v⟩
  | number (literal : List Char) (phase : NumberPhase) : Ended ⟨[], .number literal phase⟩

/-- Nothing encloses what may end here. -/
theorem ended_of_value? (h : r.value? = some v) : r.Ended := by
  obtain ⟨stack, expected⟩ := r
  unfold value? at h
  split at h
  · rename_i v hexpected
    obtain rfl : expected = .nothing v := hexpected
    exact .value stack v
  · rename_i literal phase hexpected
    obtain rfl : expected = .number literal phase := hexpected
    split at h
    · rename_i hend
      simp only [Bool.and_eq_true, List.isEmpty_iff] at hend
      obtain ⟨rfl, -⟩ := hend
      exact .number literal phase
    · cases h
  · cases h

/-- Behind a value that is complete there is only space. -/
theorem step?_nothing (h : Reading.step? ⟨stack, .nothing v⟩ c = some next) :
    isSpace c = true ∧ next = ⟨stack, .nothing v⟩ := by
  simp only [step?, between?] at h
  split at h
  · rename_i hc
    exact ⟨hc, (Option.some.inj h).symm⟩
  · cases h

/-- Where nothing encloses what has been read, nothing is closed by what follows. -/
theorem Ended.step? (h : r.Ended) (hstep : r.step? c = some next) : next.Ended ∧ c ≠ '\x7d' := by
  cases h with
  | value stack v =>
    obtain ⟨hc, rfl⟩ := step?_nothing hstep
    refine ⟨.value stack v, ?_⟩
    rintro rfl
    cases hc
  | number literal phase =>
    simp only [Reading.step?] at hstep
    split at hstep
    · rename_i phase' hphase
      cases hstep
      refine ⟨.number _ _, ?_⟩
      rintro rfl
      rw [endsNumber_brace phase] at hphase
      cases hphase
    · split at hstep
      · rw [← step?_finish] at hstep
        obtain ⟨hc, rfl⟩ := step?_nothing hstep
        refine ⟨.value _ _, ?_⟩
        rintro rfl
        cases hc
      · cases hstep

/-- Behind what nothing encloses no closing brace is read. -/
theorem Ended.not_mem_of_run? (h : r.Ended) (hrun : r.run? cs = some last) : '\x7d' ∉ cs := by
  induction cs generalizing r with
  | nil => exact List.not_mem_nil
  | cons c cs ih =>
    rw [run?] at hrun
    cases hstep : r.step? c with
    | none =>
      rw [hstep] at hrun
      cases hrun
    | some next =>
      rw [hstep] at hrun
      obtain ⟨hnext, hc⟩ := h.step? hstep
      intro hmem
      rcases List.mem_cons.mp hmem with hmem | hmem
      · exact hc hmem.symm
      · exact ih hnext hrun hmem

/-- Only space follows a document. -/
theorem spaces_of_run?_nothing (h : Reading.run? ⟨stack, .nothing v⟩ cs = some last) : Spaces cs := by
  induction cs with
  | nil => exact fun c hc => absurd hc List.not_mem_nil
  | cons c cs ih =>
    rw [run?] at h
    cases hstep : Reading.step? ⟨stack, .nothing v⟩ c with
    | none =>
      rw [hstep] at h
      cases h
    | some next =>
      rw [hstep] at h
      obtain ⟨hc, rfl⟩ := step?_nothing hstep
      exact List.forall_mem_cons.mpr ⟨hc, ih h⟩

/-- Only a number ends later than where its text leads. -/
theorem eq_of_settled_eq_nothing (h : r.settled = ⟨[], .nothing v⟩) (hv : v.IsContainer) : r = ⟨[], .nothing v⟩ := by
  obtain ⟨stack, expected⟩ := r
  unfold settled at h
  split at h
  · split at h
    · rcases stack with _ | ⟨_ | _, stack⟩
      · cases h
        exact hv.elim
      · cases h
      · cases h
    · exact h
  · exact h

theorem run?_container (h : Spells (.spaced v) cs) (hv : v.IsContainer) : start.run? cs = some ⟨[], .nothing v⟩ := by
  obtain ⟨last, hrun, hsettled⟩ := leadsBehind_of_spells h []
  rw [start, hrun, eq_of_settled_eq_nothing hsettled hv]

end Reading

open Reading

variable {s t : String} {v : Value}

/-- A text that can be read stands for no value where it is cut before a closing brace. -/
theorem read?_of_cut {rest : List Char} (hread : read? s = some v) (hs : s.toList = t.toList ++ rest) (hbrace : '\x7d' ∈ rest) :
    read? t = none := by
  unfold read? at hread ⊢
  rw [hs, run?_append] at hread
  cases hrun : start.run? t.toList with
  | none => rfl
  | some r =>
    rw [hrun, Option.bind_some] at hread
    obtain ⟨last, hlast, -⟩ := Option.bind_eq_some_iff.mp hread
    cases hvalue : r.value? with
    | none => simp [hvalue]
    | some u => exact absurd hbrace ((ended_of_value? hvalue).not_mem_of_run? hlast)

/-- An array or an object with more than space behind it cannot be read. -/
theorem read?_append_of_not_spaces (h : Spells (.spaced v) s.toList) (hv : v.IsContainer) (ht : ¬Spaces t.toList) :
    read? (s ++ t) = none := by
  unfold read?
  rw [String.toList_append, run?_append, run?_container h hv, Option.bind_some]
  cases hrun : Reading.run? ⟨[], .nothing v⟩ t.toList with
  | none => rfl
  | some last => exact absurd (spaces_of_run?_nothing hrun) ht

end Stragglers.Json
