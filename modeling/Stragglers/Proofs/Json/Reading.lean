import Stragglers.Proofs.Json.Scalars

/-!
# Reading what the grammar spells

Every text that spells a value is read as that value (`read?_of_spells`). By induction on the grammar, a text that stands for a part
of a value leads from where the part may begin to where it has been read, whatever containers it stands in (`LeadsBehind`).
-/

namespace Stragglers.Json

namespace Reading

variable {r : Reading} {cs : List Char} {c : Char} {stack : List Enclosing}

/-- The members with their names as they are read. -/
def readMembers (ms : List (String × Value)) : Members :=
  ms.map fun m => (some m.1, m.2)

theorem objectOf_readMembers (ms : List (String × Value)) : objectOf (readMembers ms).reverse = .object ms := by
  have hnamed : (readMembers ms).mapM (fun m => m.1.map (·, m.2)) = some ms := by
    induction ms with
    | nil => rfl
    | cons m ms ih =>
      rw [readMembers, List.map_cons, List.mapM_cons, ← readMembers, ih]
      rfl
  rw [objectOf, List.reverse_reverse, hnamed]

theorem between_value (stack : List Enclosing) : Between ⟨stack, .value⟩ := fun _ hc => if_pos hc

theorem between_firstElement (stack : List Enclosing) : Between ⟨stack, .firstElement⟩ := fun _ hc => if_pos hc

theorem between_firstName (stack : List Enclosing) : Between ⟨stack, .firstName⟩ := fun _ hc => if_pos hc

theorem between_nextName (stack : List Enclosing) (before : Members) : Between ⟨stack, .nextName before⟩ :=
  fun _ hc => if_pos hc

theorem between_colon (stack : List Enclosing) (before : Members) (name : Name) : Between ⟨stack, .colon before name⟩ :=
  fun _ hc => if_pos hc

/-- Two readings go on alike when they pass over space, and each character that the first goes on with leads both to the same. -/
theorem run?_of_between {other last : Reading} (hr : r.Between) (hother : other.Between)
    (hstep : ∀ c next, isSpace c = false → r.step? c = some next → other.step? c = some next)
    (h : r.run? cs = some last) (hlast : last ≠ r) : other.run? cs = some last := by
  induction cs with
  | nil =>
    cases h
    exact absurd rfl hlast
  | cons c cs ih =>
    rw [run?] at h ⊢
    by_cases hc : isSpace c = true
    · rw [hr c hc] at h
      rw [hother c hc]
      exact ih h
    · cases hnext : r.step? c with
      | none =>
        rw [hnext] at h
        cases h
      | some next =>
        rw [hnext] at h
        rw [hstep c next (Bool.eq_false_iff.mpr hc) hnext]
        exact h

/-- What begins an element is read alike where the first element may stand. -/
theorem step?_firstElement {next : Reading} (hc : isSpace c = false)
    (h : Reading.step? ⟨.array [] :: stack, .value⟩ c = some next) : Reading.step? ⟨stack, .firstElement⟩ c = some next := by
  simp only [step?, between?, hc, Bool.false_eq_true, if_false, mark?] at h ⊢
  have hclose : c ≠ ']' := by
    rintro rfl
    cases h
  rw [if_neg hclose]
  exact h

/-- What begins a name is read alike where the first name may stand. -/
theorem step?_firstName {next : Reading} (hc : isSpace c = false)
    (h : Reading.step? ⟨stack, .nextName []⟩ c = some next) : Reading.step? ⟨stack, .firstName⟩ c = some next := by
  simp only [step?, between?, hc, Bool.false_eq_true, if_false, mark?] at h ⊢
  have hclose : c ≠ '\x7d' := by
    rintro rfl
    cases h
  rw [if_neg hclose]
  exact h

/-- Where a text that stands for a part leads. -/
def LeadsBehind : Part → List Char → Prop
  | .value v, cs | .spaced v, cs => ∀ stack, Leads ⟨stack, .value⟩ cs (finish v stack)
  | .elements vs, cs =>
    ∀ stack before, Leads ⟨.array before :: stack, .value⟩ cs ⟨stack, .afterElement (vs.reverse ++ before)⟩
  | .member name v, cs =>
    ∀ stack before, Leads ⟨stack, .nextName before⟩ cs ⟨stack, .afterMember ((some name, v) :: before)⟩
  | .members ms, cs =>
    ∀ stack before, Leads ⟨stack, .nextName before⟩ cs ⟨stack, .afterMember ((readMembers ms).reverse ++ before)⟩

/-- Behind a bracket the elements of an array are read, and the array ends. -/
theorem run?_array {vs : List Value} (h : LeadsBehind (.elements vs) cs) :
    Reading.run? ⟨stack, .value⟩ ('[' :: (cs ++ [']'])) = some (finish (.array vs) stack) := by
  have hopen : Reading.step? ⟨stack, .value⟩ '[' = some ⟨stack, .firstElement⟩ := rfl
  have hclose : Reading.step? ⟨stack, .afterElement vs.reverse⟩ ']' = some (finish (.array vs) stack) := by
    simp [step?, between?, isSpace, mark?]
  obtain ⟨last, hrun, hsettled⟩ := h stack []
  have hfirst : Reading.run? ⟨stack, .firstElement⟩ cs = some last := by
    refine run?_of_between (between_value _) (between_firstElement stack) (fun c next => step?_firstElement) hrun ?_
    rintro rfl
    cases hsettled
  have hleads : Leads ⟨stack, .firstElement⟩ cs ⟨stack, .afterElement vs.reverse⟩ :=
    ⟨last, hfirst, by rw [hsettled, List.append_nil]⟩
  rw [run?, hopen]
  simp only [hleads.run?_append_cons endsNumber_bracket, run?, hclose]

/-- Behind a brace the members of an object are read, and the object ends. -/
theorem run?_object {ms : List (String × Value)} (h : LeadsBehind (.members ms) cs) :
    Reading.run? ⟨stack, .value⟩ ('\x7b' :: (cs ++ ['\x7d'])) = some (finish (.object ms) stack) := by
  have hopen : Reading.step? ⟨stack, .value⟩ '\x7b' = some ⟨stack, .firstName⟩ := rfl
  have hclose : Reading.step? ⟨stack, .afterMember (readMembers ms).reverse⟩ '\x7d' = some (finish (.object ms) stack) := by
    simp [step?, between?, isSpace, mark?, objectOf_readMembers]
  obtain ⟨last, hrun, hsettled⟩ := h stack []
  have hfirst : Reading.run? ⟨stack, .firstName⟩ cs = some last := by
    refine run?_of_between (between_nextName stack []) (between_firstName stack) (fun c next => step?_firstName) hrun ?_
    rintro rfl
    cases hsettled
  have hleads : Leads ⟨stack, .firstName⟩ cs ⟨stack, .afterMember (readMembers ms).reverse⟩ :=
    ⟨last, hfirst, by rw [hsettled, List.append_nil]⟩
  rw [run?, hopen]
  simp only [hleads.run?_append_cons endsNumber_brace, run?, hclose]

/-- Every text that stands for a part leads behind that part. -/
theorem leadsBehind_of_spells {p : Part} (h : Spells p cs) : LeadsBehind p cs := by
  induction h with
  | null => exact fun stack => leads_of_run? rfl (settled_finish _ _)
  | bool b => exact fun stack => leads_of_run? (by cases b <;> rfl) (settled_finish _ _)
  | @number literal h =>
    intro stack
    have hleads : Leads ⟨stack, .value⟩ literal.toList (finish (.number (String.ofList literal.toList)) stack) :=
      leads_literal h
    rwa [String.ofList_toList] at hleads
  | text h => exact fun stack => leads_of_run? (run?_text h) (settled_finish _ _)
  | emptyArray hblank =>
    intro stack
    have hopen : Reading.step? ⟨stack, .value⟩ '[' = some ⟨stack, .firstElement⟩ := rfl
    have hclose : Reading.step? ⟨stack, .firstElement⟩ ']' = some (finish (.array []) stack) := rfl
    refine leads_of_run? ?_ (settled_finish _ _)
    simp only [run?, hopen, run?_append, (between_firstElement stack).run?_spaces hblank, Option.bind_some, hclose]
  | array _ ih => exact fun stack => leads_of_run? (run?_array ih) (settled_finish _ _)
  | emptyObject hblank =>
    intro stack
    have hopen : Reading.step? ⟨stack, .value⟩ '\x7b' = some ⟨stack, .firstName⟩ := rfl
    have hclose : Reading.step? ⟨stack, .firstName⟩ '\x7d' = some (finish (.object []) stack) := rfl
    refine leads_of_run? ?_ (settled_finish _ _)
    simp only [run?, hopen, run?_append, (between_firstName stack).run?_spaces hblank, Option.bind_some, hclose]
  | object _ ih => exact fun stack => leads_of_run? (run?_object ih) (settled_finish _ _)
  | spaced hbefore _ hafter ih =>
    exact fun stack => leads_append ((between_value stack).run?_spaces hbefore) ((ih stack).append_spaces hafter)
  | lastElement _ ih => exact fun stack before => ih (.array before :: stack)
  | @nextElement v vs cs rest _ _ ih ihrest =>
    intro stack before
    have hcomma : Reading.step? ⟨stack, .afterElement (v :: before)⟩ ',' = some ⟨.array (v :: before) :: stack, .value⟩ := rfl
    rw [List.reverse_cons, List.append_assoc, List.singleton_append]
    exact (ih (.array before :: stack)).append_cons endsNumber_comma (leads_cons hcomma (ihrest stack (v :: before)))
  | @member name v before key after cs hbefore hkey hafter _ ih =>
    intro stack members
    have hcolon : Reading.step? ⟨stack, .colon members (some name)⟩ ':' = some ⟨.object members (some name) :: stack, .value⟩ :=
      rfl
    refine leads_append ((between_nextName stack members).run?_spaces hbefore) ?_
    refine leads_append (run?_name hkey) ?_
    refine leads_append ((between_colon stack members (some name)).run?_spaces hafter) ?_
    exact leads_cons hcolon (ih (.object members (some name) :: stack))
  | lastMember _ ih => exact ih
  | @nextMember name v ms cs rest _ _ ih ihrest =>
    intro stack before
    have hcomma : Reading.step? ⟨stack, .afterMember ((some name, v) :: before)⟩ ',' =
        some ⟨stack, .nextName ((some name, v) :: before)⟩ := rfl
    rw [readMembers, List.map_cons, List.reverse_cons, List.append_assoc, List.singleton_append]
    exact (ih stack before).append_cons endsNumber_comma (leads_cons hcomma (ihrest stack ((some name, v) :: before)))

end Reading

open Reading

/-- A text that spells a value, with space around it or without, is read as that value. -/
theorem read?_of_spells {v : Value} {s : String} (h : Spells (.spaced v) s.toList) : read? s = some v := by
  obtain ⟨last, hrun, hsettled⟩ := leadsBehind_of_spells h []
  rw [read?, start, hrun, Option.bind_some, ← value?_settled, hsettled]
  rfl

end Stragglers.Json
