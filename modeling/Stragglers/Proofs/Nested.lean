import Stragglers.Proofs.Text.Pattern
import Stragglers.Rule.Named

/-!
# Functions under a qualifier

The rule for a qualifier searches for a pattern made of the qualifier, the separator and some characters of the line. Whatever
marks the qualifier holds, the pattern stands for it as it is (`nestedPattern?_eq`), so the rule matches exactly the tasks with a
function in which the qualifier, the separator and a character of the line stand one behind the other
(`nested_matches_qualifier_as_it_is`).
-/

namespace Stragglers

namespace Rule

open Pattern

/-- The pattern for a qualifier that is not too long stands for its characters, for those of the separator, and for some
characters of the line. -/
theorem nestedPattern?_eq {q : String} (hsize : q.utf8ByteSize ≤ maxQualifierSize) :
    nestedPattern? q = some ⟨(q.toList ++ pathSeparator.toList).map literal ++ [someInLine]⟩ := by
  have hname : ∀ parts, ".+".toList.foldlM Reading.step? ⟨parts, false⟩ = some ⟨someInLine :: parts, false⟩ :=
    fun _ => rfl
  rw [nestedPattern?, if_neg (Nat.not_lt.mpr hsize), read?, nestedPattern, String.toList_append, String.toList_append,
    List.foldlM_append, List.foldlM_append, foldlM_escaped]
  simp only [Option.bind_eq_bind, Option.bind_some, foldlM_escaped, hname]
  simp [Reading.finish?]

example : nestedPattern "a.b" = "a\\.b::.+" := rfl

/-- The rule for a qualifier that is neither empty nor too long searches the functions of a task for its pattern. -/
theorem holds_nested (kind : Nesting) {q : String} (hne : q ≠ "") (hsize : q.utf8ByteSize ≤ maxQualifierSize)
    (t : TaskRecord) :
    (nested kind q).holds t =
      t.hasPattern ⟨(q.toList ++ pathSeparator.toList).map literal ++ [someInLine]⟩ := by
  rw [nested, if_neg hne, nestedPattern?_eq hsize]

/-- A text can be cut behind some characters and around one exactly if its characters can. -/
theorem exists_cut_iff {text middle : String} :
    (∃ a c b, c ≠ '\n' ∧ text.toList = a ++ middle.toList ++ c :: b) ↔
      ∃ (a : String) (c : Char) (b : String), c ≠ '\n' ∧ text = a ++ middle ++ String.singleton c ++ b := by
  constructor
  · rintro ⟨a, c, b, hc, h⟩
    refine ⟨String.ofList a, c, String.ofList b, hc, String.toList_inj.mp ?_⟩
    simpa using h
  · rintro ⟨a, c, b, hc, rfl⟩
    exact ⟨a.toList, c, b.toList, hc, by simp⟩

/-- All three rules for a qualifier, of one byte at least and no longer than can be searched for, take it as it is, whatever its
characters: they match a task exactly if some function of its chain is the qualifier, the separator and a character that does not
end the line, between two other texts. -/
theorem nested_matches_qualifier_as_it_is (kind : Nesting) {q : String} (hne : 1 ≤ q.utf8ByteSize)
    (hsize : q.utf8ByteSize ≤ 327641) (t : TaskRecord) :
    (nested kind q).holds t = true ↔
      ∃ f ∈ t.frames, ∃ (a : String) (c : Char) (b : String),
        c ≠ '\n' ∧ f.function = a ++ q ++ "::" ++ String.singleton c ++ b := by
  have hq : q ≠ "" := by
    rintro rfl
    exact absurd hne (by decide)
  rw [holds_nested kind hq hsize, TaskRecord.hasPattern, List.any_eq_true]
  refine exists_congr fun f => and_congr_right fun _ => ?_
  rw [standsIn_literal_someInLine_iff, ← String.toList_append, exists_cut_iff]
  simp only [pathSeparator, String.append_assoc]

/-- A qualifier with marks is found on the second line, behind a separator that ends the first; what it would match as a pattern is
not. -/
theorem marked_qualifier_found_on_second_line :
    1 ≤ "a.b*".utf8ByteSize ∧ "a.b*".utf8ByteSize ≤ 327641 ∧
      (nested .struct "a.b*").holds (.of ⟨1⟩ "running" [.named "a.b*::\na.b*::run"]) = true ∧
      (nested .struct "a.b*").holds (.of ⟨1⟩ "running" [.named "axbb::run"]) = false := by
  have hne : 1 ≤ "a.b*".utf8ByteSize := by decide
  have hsize : "a.b*".utf8ByteSize ≤ 327641 := by decide
  refine ⟨hne, hsize, (nested_matches_qualifier_as_it_is .struct hne hsize _).mpr ?_, by decide⟩
  exact ⟨_, List.mem_singleton_self _, "a.b*::\n", 'r', "un", by decide, by decide⟩

end Rule

end Stragglers
