/-!
# Blank characters

The characters with the property White_Space of Unicode, and what remains of a text when they are taken from its ends.
-/

namespace Stragglers.Text

/-- The blank characters as closed ranges of code points, in ascending order. -/
def blankRanges : List (Nat × Nat) := [
  (0x9, 0xd), (0x20, 0x20), (0x85, 0x85), (0xa0, 0xa0), (0x1680, 0x1680), (0x2000, 0x200a), (0x2028, 0x2029),
  (0x202f, 0x202f), (0x205f, 0x205f), (0x3000, 0x3000)
]

/-- The character is white space. -/
def isBlank (c : Char) : Bool :=
  blankRanges.any fun r => decide (r.1 ≤ c.toNat) && decide (c.toNat ≤ r.2)

/-- The text from its first character that is not blank. -/
def trimStart (cs : List Char) : List Char :=
  cs.dropWhile isBlank

/-- The text up to its last character that is not blank. -/
def trimEnd (cs : List Char) : List Char :=
  (cs.reverse.dropWhile isBlank).reverse

/-- The text from its first to its last character that is not blank. -/
def trim (s : String) : String :=
  String.ofList (trimEnd (trimStart s.toList))

/-- The characters before the first blank one, of the text without its leading blanks; none if nothing else is there. -/
def firstWord? (cs : List Char) : Option (List Char) :=
  match (trimStart cs).takeWhile (!isBlank ·) with
  | [] => none
  | word => some word

/-- A text that is left after its leading blanks begins with a character that is not blank. -/
theorem not_isBlank_of_trimStart {cs rest : List Char} {c : Char} (h : trimStart cs = c :: rest) : isBlank c = false := by
  induction cs with
  | nil => simp [trimStart] at h
  | cons a cs ih =>
    simp only [trimStart, List.dropWhile_cons] at h ih
    split at h
    · exact ih h
    · rename_i ha
      simp only [List.cons.injEq] at h
      simpa [h.1] using ha

/-- Nothing is left after the leading blanks exactly when all characters are blank. -/
theorem trimStart_eq_nil_iff {cs : List Char} : trimStart cs = [] ↔ ∀ c ∈ cs, isBlank c = true := by
  induction cs with
  | nil => simp [trimStart]
  | cons a cs ih =>
    simp only [trimStart, List.dropWhile_cons, List.mem_cons, forall_eq_or_imp] at ih ⊢
    split <;> simp_all

end Stragglers.Text
