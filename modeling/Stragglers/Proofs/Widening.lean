import Stragglers.Proofs.Nested

/-!
# From narrow rules to wide ones

The rules made from a name look at different parts of a task: the function on top, each function of the chain, the text of each
frame with its place, or a pattern in each function. For each of them there is one statement of what it matches
(`holds_topFunction_iff`, `holds_anyFunction_iff`, `holds_anyEntry_iff`, `holds_nested_iff`), and from these follows that what a
narrow rule matches a wider one matches too (`wider_rules_match_more`).
-/

namespace Stragglers

/-- The text of a frame begins with its function. -/
theorem Frame.exists_text_eq (f : Frame) : ∃ place, f.text.toList = f.function.toList ++ place := by
  unfold Frame.text
  cases f.location with
  | none => exact ⟨[], (List.append_nil _).symm⟩
  | some location => exact ⟨(" at " ++ location).toList, by simp [String.append_assoc]⟩

/-- What stands in a function of the chain stands in the text of its frame. -/
theorem TaskRecord.hasEntry_of_function {t : TaskRecord} {f : Frame} {words : String} {a b : List Char} (hf : f ∈ t.frames)
    (hfunction : f.function.toList = a ++ words.toList ++ b) : t.hasEntry words = true := by
  obtain ⟨place, htext⟩ := f.exists_text_eq
  unfold TaskRecord.hasEntry
  rw [List.any_eq_true]
  refine ⟨f, hf, Text.occursIn_iff.mpr ⟨a, b ++ place, ?_⟩⟩
  rw [htext, hfunction, List.append_assoc]

namespace Rule

variable {t : TaskRecord}

/-! ## What the rules match -/

/-- The rule for the function on top matches the tasks that have it there, unless its name is empty. -/
theorem holds_topFunction_iff {function : String} :
    (topFunction function).holds t = true ↔ function ≠ "" ∧ t.topFunction = function := by
  unfold topFunction
  by_cases hempty : function = ""
  · simp [hempty, inert]
  · simp [hempty]

/-- The rule for a function in the chain matches the tasks with a frame of that function, unless its name is empty. -/
theorem holds_anyFunction_iff {function : String} :
    (anyFunction function).holds t = true ↔ function ≠ "" ∧ ∃ f ∈ t.frames, f.function = function := by
  unfold anyFunction
  by_cases hempty : function = ""
  · simp [hempty, inert]
  · simp [hempty, TaskRecord.hasFunction]

/-- The rule for words matches the tasks with a frame whose text holds them, unless there are none. -/
theorem holds_anyEntry_iff {words : String} :
    (anyEntry words).holds t = true ↔ words ≠ "" ∧ t.hasEntry words = true := by
  unfold anyEntry
  by_cases hempty : words = ""
  · simp [hempty, inert]
  · simp [hempty]

/-- The rules for a qualifier match the tasks with a function in which the qualifier, the separator and a character of the line
stand one behind the other, unless the qualifier is empty or too long. -/
theorem holds_nested_iff {kind : Nesting} {q : String} :
    (nested kind q).holds t = true ↔
      q ≠ "" ∧ q.utf8ByteSize ≤ maxQualifierSize ∧ ∃ f ∈ t.frames, ∃ a c b,
        c ≠ '\n' ∧ f.function.toList = a ++ (q ++ pathSeparator).toList ++ c :: b := by
  by_cases hempty : q = ""
  · simp [nested, hempty, inert]
  · by_cases hsize : q.utf8ByteSize ≤ maxQualifierSize
    · rw [holds_nested kind hempty hsize, TaskRecord.hasPattern, List.any_eq_true]
      simp only [Pattern.standsIn_literal_someInLine_iff, hempty, hsize, ne_eq, not_false_eq_true, true_and,
        String.toList_append]
    · have hlong : nestedPattern? q = none := by
        unfold nestedPattern?
        rw [if_pos (Nat.lt_of_not_le hsize)]
      simp [nested, hempty, hsize, hlong, inert]

/-! ## From one rule to the next -/

/-- The function on top is a function of the chain. -/
theorem exists_frame_of_topOf {frames : List Frame} {function : String} (hne : function ≠ "")
    (htop : TaskRecord.topOf frames = function) : ∃ f ∈ frames, f.function = function := by
  cases frames with
  | nil => exact absurd htop.symm hne
  | cons f frames => exact ⟨f, List.mem_cons_self, htop⟩

/-- What lies under a longer qualifier lies under the part of it before a separator, if the rest of it is in the line. -/
theorem exists_cut_of_longer {text a b p s : List Char} {c : Char} (hs : s.head? ≠ some '\n')
    (htext : text = a ++ (p ++ pathSeparator.toList ++ s ++ pathSeparator.toList) ++ c :: b) :
    ∃ c' b', c' ≠ '\n' ∧ text = a ++ (p ++ pathSeparator.toList) ++ c' :: b' := by
  cases s with
  | nil =>
    -- the second separator follows the first one, and begins with a character of the line
    refine ⟨':', ':' :: c :: b, by decide, ?_⟩
    rw [htext]
    simp [pathSeparator]
  | cons x s =>
    refine ⟨x, s ++ pathSeparator.toList ++ c :: b, ?_, ?_⟩
    · intro hx
      exact hs (congrArg some hx)
    · rw [htext]
      simp

/-- Of a task whose function on top is that of its first frame: what the rule for the function on top matches the rule for the same
function anywhere in the chain matches too, and what that matches the rule for the same words in the text of a frame matches. What
the rule for a qualifier matches that continues another one, with a separator and a character of the line behind it, the rule for
the other one matches, and what that matches the rule for its words with the separator matches. -/
theorem wider_rules_match_more (id : TaskId) (state : String) (frames : List Frame) :
    let t := TaskRecord.of id state frames
    (∀ n, (topFunction n).holds t = true → (anyFunction n).holds t = true) ∧
    (∀ n, (anyFunction n).holds t = true → (anyEntry n).holds t = true) ∧
    (∀ kind p s, p ≠ "" → s.toList.head? ≠ some '\n' →
      (nested kind (p ++ "::" ++ s)).holds t = true → (nested kind p).holds t = true) ∧
    ∀ kind p, (nested kind p).holds t = true → (anyEntry (p ++ "::")).holds t = true := by
  intro t
  refine ⟨fun n htop => ?_, fun n hany => ?_, fun kind p s hp hs hlonger => ?_, fun kind p hnested => ?_⟩
  · obtain ⟨hne, htop⟩ := holds_topFunction_iff.mp htop
    exact holds_anyFunction_iff.mpr ⟨hne, exists_frame_of_topOf hne htop⟩
  · obtain ⟨hne, f, hf, rfl⟩ := holds_anyFunction_iff.mp hany
    refine holds_anyEntry_iff.mpr ⟨hne, TaskRecord.hasEntry_of_function (a := []) (b := []) hf ?_⟩
    simp
  · obtain ⟨-, hsize, f, hf, a, c, b, -, hfunction⟩ := holds_nested_iff.mp hlonger
    have hshorter : p.utf8ByteSize ≤ maxQualifierSize := by
      simp only [String.utf8ByteSize_append] at hsize
      omega
    simp only [String.toList_append] at hfunction
    obtain ⟨c', b', hc', hfunction'⟩ := exists_cut_of_longer hs hfunction
    refine holds_nested_iff.mpr ⟨hp, hshorter, f, hf, a, c', b', hc', ?_⟩
    rw [String.toList_append]
    exact hfunction'
  · obtain ⟨hne, -, f, hf, a, c, b, -, hfunction⟩ := holds_nested_iff.mp hnested
    refine holds_anyEntry_iff.mpr ⟨?_, TaskRecord.hasEntry_of_function hf hfunction⟩
    intro hempty
    have hlength := congrArg String.length hempty
    simp at hlength

/-- Each of the rules matches this task, from the narrowest on. -/
theorem method_matched_by_wider_rules :
    let t := TaskRecord.of ⟨1⟩ "running" [.located "app::net::Conn::read" "src/net.rs:7:5"]
    (topFunction "app::net::Conn::read").holds t = true ∧ (anyFunction "app::net::Conn::read").holds t = true ∧
      (anyEntry "app::net::Conn::read").holds t = true ∧
      "app::net" ≠ "" ∧ "Conn".toList.head? ≠ some '\n' ∧ (nested .package ("app::net" ++ "::" ++ "Conn")).holds t = true ∧
      (nested .package "app::net").holds t = true ∧ (anyEntry ("app::net" ++ "::")).holds t = true := by
  intro t
  obtain ⟨hany, hentry, hshorter, hwords⟩ :=
    wider_rules_match_more ⟨1⟩ "running" [.located "app::net::Conn::read" "src/net.rs:7:5"]
  have htop : (topFunction "app::net::Conn::read").holds t = true := holds_topFunction_iff.mpr ⟨by decide, rfl⟩
  have hlonger : (nested .package ("app::net" ++ "::" ++ "Conn")).holds t = true :=
    holds_nested_iff.mpr ⟨by decide, by decide, _, List.mem_singleton.mpr rfl, [], 'r', "ead".toList, by decide, rfl⟩
  have hpackage := hshorter .package "app::net" "Conn" (by decide) (by decide) hlonger
  exact ⟨htop, hany _ htop, hentry _ (hany _ htop), by decide, by decide, hlonger, hpackage, hwords _ _ hpackage⟩

/-- A qualifier that goes on in the next line is not under the part of it in the first. -/
example :
    let t := TaskRecord.of ⟨1⟩ "running" [.named "a::\nb::c"]
    (nested .package "a::\nb").holds t = true ∧ (nested .package "a").holds t = false := by
  decide

end Rule

end Stragglers
