import Stragglers.Text.Pattern

/-!
# What patterns describe

`Describes` says of which texts a pattern speaks, and a search finds the pattern exactly where a part of the text is one of them
(`standsIn_iff`). A text that is escaped is read as itself, whatever marks it holds: each of its characters becomes a part that
stands for it alone (`foldlM_escaped`), and such parts describe the text and no other (`describes_map_literal_append`).
-/

namespace Stragglers.Pattern

variable {parts : List PatternPart} {cs : List Char}

/-- The text is, from its first character to its last, as the parts say one behind the other. -/
inductive Describes : List PatternPart → List Char → Prop where
  | nil : Describes [] []
  | next {part : PatternPart} {parts : List PatternPart} {c : Char} {cs : List Char} (hc : part.char.admits c = true)
      (h : Describes parts cs) : Describes (part :: parts) (c :: cs)
  | again {part : PatternPart} {parts : List PatternPart} {c : Char} {cs : List Char} (hrepeated : part.repeated = true)
      (hc : part.char.admits c = true) (h : Describes (part :: parts) cs) : Describes (part :: parts) (c :: cs)

/-! ## Search -/

/-- There is a character for each part. -/
theorem Describes.length_le (h : Describes parts cs) : parts.length ≤ cs.length := by
  induction h with
  | nil => exact Nat.le_refl _
  | next _ _ ih => exact Nat.succ_le_succ ih
  | again _ _ _ ih => exact Nat.le_succ_of_le ih

/-- A text begins with the parts exactly if they describe what it begins with. -/
theorem begins_iff : begins parts cs = true ↔ ∃ m b, cs = m ++ b ∧ Describes parts m := by
  induction cs generalizing parts with
  | nil =>
    cases parts with
    | nil => exact ⟨fun _ => ⟨[], [], rfl, .nil⟩, fun _ => rfl⟩
    | cons part parts =>
      refine ⟨fun h => absurd h (by simp [begins]), ?_⟩
      rintro ⟨m, b, hm, h⟩
      obtain ⟨rfl, -⟩ := List.append_eq_nil_iff.mp hm.symm
      cases h
  | cons c cs ih =>
    cases parts with
    | nil => exact ⟨fun _ => ⟨[], c :: cs, rfl, .nil⟩, fun _ => rfl⟩
    | cons part parts =>
      rw [begins, Bool.and_eq_true]
      constructor
      · rintro ⟨hc, h⟩
        split at h
        · rename_i hrepeated
          rcases Bool.or_eq_true_iff.mp h with h | h
          · obtain ⟨m, b, rfl, hm⟩ := ih.mp h
            exact ⟨c :: m, b, rfl, .next hc hm⟩
          · obtain ⟨m, b, rfl, hm⟩ := ih.mp h
            exact ⟨c :: m, b, rfl, .again hrepeated hc hm⟩
        · obtain ⟨m, b, rfl, hm⟩ := ih.mp h
          exact ⟨c :: m, b, rfl, .next hc hm⟩
      · rintro ⟨m, b, hcs, hm⟩
        cases hm with
        | next hc h =>
          obtain ⟨rfl, rfl⟩ := List.cons.inj hcs
          have hrest := ih.mpr ⟨_, b, rfl, h⟩
          refine ⟨hc, ?_⟩
          split
          · rw [hrest, Bool.true_or]
          · exact hrest
        | again hrepeated hc h =>
          obtain ⟨rfl, rfl⟩ := List.cons.inj hcs
          have hrest := ih.mpr ⟨_, b, rfl, h⟩
          exact ⟨hc, by rw [if_pos hrepeated, hrest, Bool.or_true]⟩

/-- Searching the first places finds the parts exactly if they describe what stands behind fewer characters than these. -/
theorem standsWithin_iff {n : Nat} :
    standsWithin parts n cs = true ↔ ∃ a m b, a.length < n ∧ cs = a ++ m ++ b ∧ Describes parts m := by
  induction n generalizing cs with
  | zero => simp [standsWithin]
  | succ n ih =>
    cases cs with
    | nil =>
      rw [standsWithin, begins_iff]
      constructor
      · rintro ⟨m, b, hm, h⟩
        exact ⟨[], m, b, Nat.succ_pos n, hm, h⟩
      · rintro ⟨a, m, b, -, hcs, h⟩
        obtain ⟨ham, rfl⟩ := List.append_eq_nil_iff.mp hcs.symm
        obtain ⟨rfl, rfl⟩ := List.append_eq_nil_iff.mp ham
        exact ⟨[], [], rfl, h⟩
    | cons c cs =>
      rw [standsWithin, Bool.or_eq_true, begins_iff, ih]
      constructor
      · rintro (⟨m, b, hm, h⟩ | ⟨a, m, b, ha, rfl, h⟩)
        · exact ⟨[], m, b, Nat.succ_pos n, hm, h⟩
        · exact ⟨c :: a, m, b, Nat.succ_lt_succ ha, rfl, h⟩
      · rintro ⟨a, m, b, ha, hcs, h⟩
        cases a with
        | nil => exact Or.inl ⟨m, b, hcs, h⟩
        | cons x a =>
          simp only [List.cons_append, List.cons.injEq] at hcs
          exact Or.inr ⟨a, m, b, Nat.lt_of_succ_lt_succ ha, hcs.2, h⟩

/-- Searching finds a pattern exactly if it describes a part of the text. -/
theorem standsIn_iff {p : Pattern} : p.standsIn cs = true ↔ ∃ a m b, cs = a ++ m ++ b ∧ Describes p.parts m := by
  rw [standsIn, standsWithin_iff]
  constructor
  · rintro ⟨a, m, b, -, hcs, h⟩
    exact ⟨a, m, b, hcs, h⟩
  · rintro ⟨a, m, b, rfl, h⟩
    have hlength := h.length_le
    exact ⟨a, m, b, by simp only [List.length_append]; omega, rfl, h⟩

/-! ## Characters that stand for themselves -/

/-- The part that stands for one character. -/
def literal (c : Char) : PatternPart :=
  ⟨.exactly c, false⟩

/-- The part that stands for some characters of a line. -/
def someInLine : PatternPart :=
  ⟨.inLine, true⟩

/-- Parts that stand for one character each, and others behind them, describe these characters with what the others describe. -/
theorem describes_map_literal_append {text m : List Char} :
    Describes (text.map literal ++ parts) m ↔ ∃ rest, m = text ++ rest ∧ Describes parts rest := by
  induction text generalizing m with
  | nil => exact ⟨fun h => ⟨m, rfl, h⟩, fun ⟨_, hm, h⟩ => hm ▸ h⟩
  | cons c text ih =>
    constructor
    · intro h
      cases h with
      | next hc h =>
        obtain ⟨rest, rfl, hrest⟩ := ih.mp h
        obtain rfl := eq_of_beq hc
        exact ⟨rest, rfl, hrest⟩
      | again hrepeated => cases hrepeated
    · rintro ⟨rest, rfl, hrest⟩
      exact .next (beq_self_eq_true c) (ih.mpr ⟨rest, rfl, hrest⟩)

/-- Some characters of a line are one or more, none of which ends the line. -/
theorem describes_someInLine {m : List Char} : Describes [someInLine] m ↔ m ≠ [] ∧ ∀ c ∈ m, c ≠ '\n' := by
  induction m with
  | nil =>
    refine ⟨fun h => ?_, fun h => absurd rfl h.1⟩
    cases h
  | cons c m ih =>
    rw [List.forall_mem_cons]
    constructor
    · intro h
      cases h with
      | next hc h =>
        cases h
        exact ⟨List.cons_ne_nil _ _, bne_iff_ne.mp hc, fun _ hx => absurd hx List.not_mem_nil⟩
      | again _ hc h => exact ⟨List.cons_ne_nil _ _, bne_iff_ne.mp hc, (ih.mp h).2⟩
    · rintro ⟨-, hc, hm⟩
      cases m with
      | nil => exact .next (bne_iff_ne.mpr hc) .nil
      | cons x m => exact .again rfl (bne_iff_ne.mpr hc) (ih.mpr ⟨List.cons_ne_nil _ _, hm⟩)

/-- Searching for a text with some characters of the line behind it finds it exactly if it stands somewhere with one such
character behind it. -/
theorem standsIn_literal_someInLine_iff {text : List Char} :
    (Pattern.mk (text.map literal ++ [someInLine])).standsIn cs = true ↔
      ∃ a c b, c ≠ '\n' ∧ cs = a ++ text ++ c :: b := by
  rw [standsIn_iff]
  constructor
  · rintro ⟨a, m, b, rfl, h⟩
    obtain ⟨rest, rfl, hrest⟩ := describes_map_literal_append.mp h
    obtain ⟨hne, hline⟩ := describes_someInLine.mp hrest
    obtain ⟨c, rest, rfl⟩ := List.exists_cons_of_ne_nil hne
    exact ⟨a, c, rest ++ b, hline c List.mem_cons_self, by simp⟩
  · rintro ⟨a, c, b, hc, rfl⟩
    have hline : Describes [someInLine] [c] := describes_someInLine.mpr ⟨List.cons_ne_nil _ _, by simpa using hc⟩
    exact ⟨a, text ++ [c], b, by simp, describes_map_literal_append.mpr ⟨[c], rfl, hline⟩⟩

/-! ## Reading what is escaped -/

/-- An escaped character is read as the part that stands for it, mark or not. -/
theorem foldlM_escapedChar (parts : List PatternPart) (c : Char) :
    (escapedChar c).foldlM Reading.step? ⟨parts, false⟩ = some ⟨literal c :: parts, false⟩ := by
  unfold escapedChar
  by_cases hc : marks.contains c = true
  · have hbackslash : Reading.step? ⟨parts, false⟩ '\\' = some ⟨parts, true⟩ := rfl
    have hmark : Reading.step? ⟨parts, true⟩ c = some ⟨literal c :: parts, false⟩ := by
      unfold Reading.step?
      rw [if_pos hc]
      rfl
    rw [if_pos hc, List.foldlM_cons, hbackslash, Option.bind_eq_bind, Option.bind_some, List.foldlM_cons, hmark]
    rfl
  · have hself : Reading.step? ⟨parts, false⟩ c = some ⟨literal c :: parts, false⟩ := by
      unfold Reading.step?
      rw [if_neg hc]
      rfl
    rw [if_neg hc, List.foldlM_cons, hself]
    rfl

/-- An escaped text is read as parts that stand for its characters. -/
theorem foldlM_escaped (parts : List PatternPart) (text : String) :
    (escaped text).toList.foldlM Reading.step? ⟨parts, false⟩ = some ⟨(text.toList.map literal).reverse ++ parts, false⟩ := by
  rw [escaped, String.toList_ofList]
  induction text.toList generalizing parts with
  | nil => rfl
  | cons c cs ih =>
    rw [List.flatMap_cons, List.foldlM_append, foldlM_escapedChar, Option.bind_eq_bind, Option.bind_some, ih]
    simp

end Stragglers.Pattern
