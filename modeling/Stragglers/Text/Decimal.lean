/-!
# Unsigned decimal words

Numbers of 64 bits as they stand in file names and process files: one plus sign may lead, and at least one ASCII digit
follows. Main statement: what `toString` writes of a number in range is read as that number.
-/

namespace Stragglers.Text

/-- The number that a nonempty sequence of ASCII digits stands for, if a word of 64 bits holds it. -/
def digits? (cs : List Char) : Option UInt64 :=
  if cs.isEmpty || cs.any (!·.isDigit) then none
  else
    let n := Nat.ofDigitChars 10 cs 0
    if n < UInt64.size then some (UInt64.ofNat n) else none

/-- The number that a word of digits stands for; one plus sign may stand before them. -/
def unsigned? : List Char → Option UInt64
  | '+' :: cs => digits? cs
  | cs => digits? cs

/-- The digits of a number in range are read as that number. -/
theorem digits?_toDigits {n : Nat} (h : n < UInt64.size) : digits? (Nat.toDigits 10 n) = some (UInt64.ofNat n) := by
  have hd : ∀ c ∈ Nat.toDigits 10 n, c.isDigit = true := fun c hc => Nat.isDigit_of_mem_toDigits (by decide) (by decide) hc
  have hne : (Nat.toDigits 10 n).isEmpty = false := by simp [Nat.toDigits_ne_nil]
  have hall : (Nat.toDigits 10 n).any (!·.isDigit) = false := by
    simp only [List.any_eq_false, Bool.not_eq_true]
    intro c hc
    simp [hd c hc]
  unfold digits?
  rw [hne, hall]
  simp only [Bool.or_self, Bool.false_eq_true, if_false, Nat.ofDigitChars_ten_toDigits, if_pos h]

/-- Digits alone are a word. -/
theorem unsigned?_of_isDigit {c : Char} {cs : List Char} (h : c.isDigit = true) : unsigned? (c :: cs) = digits? (c :: cs) := by
  unfold unsigned?
  split
  · rename_i heq
    simp only [List.cons.injEq] at heq
    rw [heq.1] at h
    exact absurd h (by decide)
  · rfl

/-- What `toString` writes of a number is its digits. -/
theorem toList_toString (n : Nat) : (toString n).toList = Nat.toDigits 10 n := by
  rw [Nat.toString_eq_repr, Nat.toList_repr]

/-- What `toString` writes of a number in range is read as that number. -/
theorem unsigned?_toString {n : Nat} (h : n < UInt64.size) : unsigned? (toString n).toList = some (UInt64.ofNat n) := by
  rw [toList_toString, ← digits?_toDigits h]
  cases hdigits : Nat.toDigits 10 n with
  | nil => exact absurd hdigits Nat.toDigits_ne_nil
  | cons c cs =>
    refine unsigned?_of_isDigit (Nat.isDigit_of_mem_toDigits (b := 10) (by decide) (by decide) (n := n) ?_)
    rw [hdigits]
    exact List.mem_cons_self

end Stragglers.Text
