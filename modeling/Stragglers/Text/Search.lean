/-!
# Where a text occurs in another

Plain search over characters. Main statement: `occursIn_iff` (the needle lies between two parts of the text).
-/

namespace Stragglers.Text

/-- The needle stands at one of the first `places` of the text. -/
def occursWithin (needle : List Char) : (places : Nat) → List Char → Bool
  | 0, _ => false
  | _ + 1, [] => needle.isEmpty
  | n + 1, c :: cs => needle.isPrefixOf (c :: cs) || occursWithin needle n cs

/-- The needle stands somewhere in the text; there is no need to look where too little of the text is left. -/
def occursIn (needle cs : List Char) : Bool :=
  occursWithin needle (cs.length + 1 - needle.length) cs

/-- Searching the first places finds a needle exactly when it stands behind fewer characters than these. -/
theorem occursWithin_iff {needle cs : List Char} {n : Nat} :
    occursWithin needle n cs = true ↔ ∃ a b, a.length < n ∧ cs = a ++ needle ++ b := by
  induction cs generalizing n with
  | nil =>
    cases n with
    | zero => simp [occursWithin]
    | succ n =>
      simp only [occursWithin, List.isEmpty_iff, List.append_assoc, List.nil_eq, List.append_eq_nil_iff]
      constructor
      · rintro rfl
        exact ⟨[], [], by simp, rfl, rfl, rfl⟩
      · rintro ⟨a, b, -, -, h, -⟩
        exact h
  | cons c cs ih =>
    cases n with
    | zero => simp [occursWithin]
    | succ n =>
      simp only [occursWithin, Bool.or_eq_true, List.isPrefixOf_iff_prefix, ih]
      constructor
      · rintro (⟨b, hb⟩ | ⟨a, b, ha, rfl⟩)
        · exact ⟨[], b, by simp, by simp [hb]⟩
        · exact ⟨c :: a, b, by simpa using ha, by simp⟩
      · rintro ⟨a, b, ha, h⟩
        cases a with
        | nil => exact Or.inl ⟨b, by simpa using h.symm⟩
        | cons x a =>
          simp only [List.cons_append, List.cons.injEq] at h
          exact Or.inr ⟨a, b, by simpa using ha, h.2⟩

/-- Searching finds a needle exactly when the text is the needle between two other texts. -/
theorem occursIn_iff {needle cs : List Char} : occursIn needle cs = true ↔ ∃ a b, cs = a ++ needle ++ b := by
  rw [occursIn, occursWithin_iff]
  constructor
  · rintro ⟨a, b, -, h⟩
    exact ⟨a, b, h⟩
  · rintro ⟨a, b, rfl⟩
    exact ⟨a, b, by simp only [List.length_append]; omega, rfl⟩

end Stragglers.Text
