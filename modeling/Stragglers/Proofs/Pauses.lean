import Stragglers.Backoff

/-!
# How long the pauses are

Pauses are counted in words of 64 bits, in which doubling runs out of places. No bit is lost on the way: a pause is the exact
power of two in microseconds, cut at the largest word and at the bound (`nanos_delay`). Everything else about one pause follows
from that equation.
-/

namespace Stragglers.Backoff

/-! ## Words -/

/-- A number of places in a word is moved by as it is. -/
theorem toNat_places {n : Nat} (h : n < 64) : (UInt64.ofNat n).toNat % 64 = n := by
  have hword : n < UInt64.size := Nat.lt_trans h (by decide)
  rw [UInt64.toNat_ofNat_of_lt' hword, Nat.mod_eq_of_lt h]

/-- The first pause moved up by the places of a word is a power of two. -/
theorem toNat_firstMicros_shiftLeft {n : Nat} (h : n < 64) :
    (firstMicros <<< UInt64.ofNat n).toNat = Nat.pow 2 n := by
  have hpow : Nat.pow 2 n < UInt64.size := Nat.pow_lt_pow_right (by decide) h
  rw [UInt64.toNat_shiftLeft, toNat_places h, Nat.shiftLeft_eq]
  have hfirst : firstMicros.toNat * 2 ^ n = Nat.pow 2 n := Nat.one_mul _
  rw [hfirst]
  exact Nat.mod_eq_of_lt hpow

/-- A word that the first pause is moved up to has lost no bit. -/
theorem of_shiftUp?_firstMicros {n : Nat} {word : UInt64} (h : shiftUp? firstMicros n = some word) :
    n < 64 ∧ word.toNat = Nat.pow 2 n ∧ word >>> UInt64.ofNat n = firstMicros := by
  rw [shiftUp?] at h
  split at h
  · rename_i hn
    cases h
    refine ⟨hn, toNat_firstMicros_shiftLeft hn, ?_⟩
    rw [← UInt64.toNat_inj, UInt64.toNat_shiftRight, toNat_places hn, toNat_firstMicros_shiftLeft hn,
      Nat.shiftRight_eq_div_pow]
    exact Nat.div_self (Nat.two_pow_pos n)
  · cases h

/-- The first pause can be doubled as often as a word has places, less one. -/
theorem doubled?_of_lt {n : Nat} (h : n < 64) : ∃ word, doubled? n = some word ∧ word.toNat = Nat.pow 2 n := by
  have hshift : shiftUp? firstMicros n = some (firstMicros <<< UInt64.ofNat n) := if_pos h
  obtain ⟨-, hword, hback⟩ := of_shiftUp?_firstMicros hshift
  refine ⟨_, ?_, hword⟩
  rw [doubled?, hshift, Option.filter_some, hback]
  rfl

/-- The first pause cannot be doubled more often. -/
theorem doubled?_of_le {n : Nat} (h : 64 ≤ n) : doubled? n = none := by
  rw [doubled?, shiftUp?, if_neg (Nat.not_lt_of_le h)]
  rfl

/-- The microseconds of a pause before it is cut at the bound. -/
theorem toNat_doubled? (n : Nat) : ((doubled? n).getD maxMicros).toNat = min (Nat.pow 2 n) (UInt64.size - 1) := by
  by_cases h : n < 64
  · obtain ⟨word, hdoubled, hword⟩ := doubled?_of_lt h
    have hpow : Nat.pow 2 n < UInt64.size := Nat.pow_lt_pow_right (by decide) h
    rw [hdoubled, Option.getD_some, hword]
    omega
  · have hle : 64 ≤ n := Nat.le_of_not_lt h
    have hpow : UInt64.size ≤ Nat.pow 2 n := Nat.pow_le_pow_right Nat.two_pos hle
    have hmax : maxMicros.toNat = UInt64.size - 1 := rfl
    rw [doubled?_of_le hle, Option.getD_none, hmax]
    omega

/-! ## One pause -/

/-- A pause in nanoseconds. -/
theorem nanos_delay (b : Backoff) (n : Nat) :
    (b.delay n).nanos = min b.maxSleep.nanos (min (Nat.pow 2 n) (UInt64.size - 1) * 1000) := by
  rw [delay, Duration.nanos_min, Duration.ofMicros, toNat_doubled?, Nat.min_comm]

/-- Later pauses are no shorter. -/
theorem delay_le_delay (b : Backoff) {m n : Nat} (h : m ≤ n) : b.delay m ≤ b.delay n := by
  have hpow : Nat.pow 2 m ≤ Nat.pow 2 n := Nat.pow_le_pow_right Nat.two_pos h
  rw [Duration.le_def, nanos_delay, nanos_delay]
  omega

/-- A larger bound makes no pause shorter. -/
theorem delay_le_delay_of_maxSleep_le {b c : Backoff} (h : b.maxSleep ≤ c.maxSleep) (n : Nat) : b.delay n ≤ c.delay n := by
  rw [Duration.le_def] at h ⊢
  rw [nanos_delay, nanos_delay]
  omega

/-- No pause is longer than the bound. -/
theorem delay_le_maxSleep (b : Backoff) (n : Nat) : b.delay n ≤ b.maxSleep := by
  rw [Duration.le_def, nanos_delay]
  exact Nat.min_le_left _ _

/-- Only a bound of zero makes a pause of zero. -/
theorem nanos_delay_eq_zero_iff {b : Backoff} {n : Nat} : (b.delay n).nanos = 0 ↔ b.maxSleep.nanos = 0 := by
  have hpow : 0 < Nat.pow 2 n := Nat.two_pow_pos n
  have hsize : 1 < UInt64.size := by decide
  rw [nanos_delay]
  omega

/-- The next pause is twice as long, if that is a word and within the bound. -/
theorem nanos_delay_succ {b : Backoff} {n : Nat} (hn : n < 63) (h : 2 * (b.delay n).nanos ≤ b.maxSleep.nanos) :
    (b.delay (n + 1)).nanos = 2 * (b.delay n).nanos := by
  have hpow : Nat.pow 2 (n + 1) = Nat.pow 2 n * 2 := rfl
  have hword : Nat.pow 2 (n + 1) < UInt64.size := Nat.pow_lt_pow_right (by decide) (Nat.succ_lt_succ hn)
  rw [nanos_delay] at h ⊢
  rw [nanos_delay]
  omega

/-- The pause behind an attempt is the exact power of two in microseconds, cut at the largest word of 64 bits and at the bound. The
bits of the first pause are moved only by places that a word has, and none of them is lost. So a pause never falls back to a short
one: it is no shorter behind a later attempt or under a larger bound, never longer than the bound, and zero only if the bound is;
and it doubles from one attempt to the next for as long as that gives a word and does not exceed the bound. -/
theorem delay_doubles_up_to_bound (b : Backoff) (n : Nat) :
    (b.delay n).nanos = min b.maxSleep.nanos (min (Nat.pow 2 n) (UInt64.size - 1) * 1000) ∧
    (∀ word, shiftUp? firstMicros n = some word →
      n < 64 ∧ word.toNat = Nat.pow 2 n ∧ word >>> UInt64.ofNat n = firstMicros) ∧
    (∀ m, n ≤ m → b.delay n ≤ b.delay m) ∧
    (∀ c : Backoff, b.maxSleep ≤ c.maxSleep → b.delay n ≤ c.delay n) ∧
    b.delay n ≤ b.maxSleep ∧
    ((b.delay n).nanos = 0 ↔ b.maxSleep.nanos = 0) ∧
    (n < 63 → 2 * (b.delay n).nanos ≤ b.maxSleep.nanos → (b.delay (n + 1)).nanos = 2 * (b.delay n).nanos) :=
  ⟨nanos_delay b n, fun _ => of_shiftUp?_firstMicros, fun _ => delay_le_delay b,
    fun _ hc => delay_le_delay_of_maxSleep_le hc n, delay_le_maxSleep b n, nanos_delay_eq_zero_iff, nanos_delay_succ⟩

end Stragglers.Backoff
