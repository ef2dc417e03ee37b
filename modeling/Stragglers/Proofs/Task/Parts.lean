import Mathlib.Data.List.Basic
import Stragglers.Proofs.Task.Json

/-!
# The parts of a value

What is asked of the value of a text, said without the functions that ask it. A value that has a text is a word exactly when it is
the number of that word, since a literal has no leading zeros (`word?_eq_some`). The members of an object are asked for by name:
each name has its members, the others are passed over (`perm_known`), and a name that is not there once gives nothing.
-/

namespace Stragglers.Json

/-! ## What has a text -/

/-- The values in a part. -/
def Part.values : Part → List Value
  | .value v | .spaced v | .member _ v => [v]
  | .elements vs => vs
  | .members ms => ms.map (·.2)

theorem proper_of_spells {part : Part} {cs : List Char} (h : Spells part cs) : ∀ v ∈ part.values, v.Proper := by
  induction h with
  | null => exact List.forall_mem_singleton.mpr .null
  | bool b => exact List.forall_mem_singleton.mpr (.bool b)
  | number hliteral => exact List.forall_mem_singleton.mpr (.number hliteral)
  | text _ => exact List.forall_mem_singleton.mpr (.text _)
  | emptyArray _ => exact List.forall_mem_singleton.mpr (.array fun _ hv => absurd hv List.not_mem_nil)
  | array _ ih => exact List.forall_mem_singleton.mpr (.array ih)
  | emptyObject _ => exact List.forall_mem_singleton.mpr (.object fun _ hm => absurd hm List.not_mem_nil)
  | object _ ih => exact List.forall_mem_singleton.mpr (.object fun m hm => ih m.2 (List.mem_map_of_mem hm))
  | spaced _ _ _ ih => exact ih
  | lastElement _ ih => exact ih
  | nextElement _ _ ih ihrest => exact List.forall_mem_cons.mpr ⟨ih _ List.mem_cons_self, ihrest⟩
  | member _ _ _ _ ih => exact ih
  | lastMember _ ih => exact ih
  | nextMember _ _ ih ihrest => exact List.forall_mem_cons.mpr ⟨ih _ List.mem_cons_self, ihrest⟩

/-- A value that a text stands for has a text. -/
theorem Value.proper_of_spells {v : Value} {cs : List Char} (h : Spells (.spaced v) cs) : v.Proper :=
  Json.proper_of_spells h v List.mem_cons_self

/-! ## Words -/

section Words

variable {cs : List Char}

/-- A digit is the digit of what it stands for. -/
theorem digitChar_of_isDigit {c : Char} (hc : c.isDigit = true) :
    c.toNat - '0'.toNat < 10 ∧ (c.toNat - '0'.toNat).digitChar = c := by
  simp only [Char.isDigit, Bool.and_eq_true, decide_eq_true_eq] at hc
  have hlow : '0'.toNat ≤ c.toNat := hc.1
  have hhigh : c.toNat < '0'.toNat + 10 := Nat.lt_succ_of_le hc.2
  have hlt : c.toNat - '0'.toNat < 10 := by omega
  have hchar : ∀ n < 10, n.digitChar = Char.ofNat ('0'.toNat + n) := by decide
  refine ⟨hlt, ?_⟩
  rw [hchar _ hlt, Nat.add_sub_cancel' hlow, Char.ofNat_toNat]

/-- Behind a number other than zero, digits are the digits of what they make of it. -/
theorem toDigits_ofDigitChars {n : Nat} (hn : 0 < n) (hcs : ∀ c ∈ cs, c.isDigit = true) :
    Nat.toDigits 10 (Nat.ofDigitChars 10 cs n) = Nat.toDigits 10 n ++ cs := by
  induction cs generalizing n with
  | nil => simp
  | cons c cs ih =>
    obtain ⟨hc, hcs⟩ := List.forall_mem_cons.mp hcs
    obtain ⟨hlt, hdigit⟩ := digitChar_of_isDigit hc
    rw [Nat.ofDigitChars_cons, ih (by omega) hcs, ← Nat.toDigits_append_toDigits (by omega) hn hlt,
      Nat.toDigits_of_lt_base hlt, hdigit, List.append_assoc, List.singleton_append]

/-- The digits before the point are those of the number that they stand for. -/
theorem Whole.toDigits_ofDigitChars (h : Whole cs) : Nat.toDigits 10 (Nat.ofDigitChars 10 cs 0) = cs := by
  cases h with
  | zero => rfl
  | @digits c cs hc hzero hcs =>
    obtain ⟨hlt, hdigit⟩ := digitChar_of_isDigit hc
    have hpos : 0 < c.toNat - '0'.toNat := by
      rw [Nat.pos_iff_ne_zero]
      intro h
      rw [h] at hdigit
      exact hzero hdigit.symm
    rw [Nat.ofDigitChars_cons, Nat.mul_zero, Nat.zero_add, Json.toDigits_ofDigitChars hpos hcs, Nat.toDigits_of_lt_base hlt,
      hdigit, List.singleton_append]

/-- A literal of nothing but digits has neither sign nor fraction nor exponent. -/
theorem Literal.whole_of_digits (h : Literal cs) (hcs : ∀ c ∈ cs, c.isDigit = true) : Whole cs := by
  cases h with
  | @parts sign whole fraction exponent hsign hwhole hfraction hexponent =>
    have hnosign : sign = [] := by
      rcases hsign with rfl | rfl
      · rfl
      · exact absurd (hcs '-' (by simp)) (by decide)
    have hnofraction : fraction = [] := by
      cases hfraction with
      | absent => rfl
      | present _ => exact absurd (hcs '.' (by simp)) (by decide)
    have hnoexponent : exponent = [] := by
      cases hexponent with
      | absent => rfl
      | @present e _ _ he _ _ =>
        have he' : e.isDigit = true := hcs e (by simp)
        rcases he with rfl | rfl <;> exact absurd he' (by decide)
    rw [hnosign, hnofraction, hnoexponent, List.append_nil, List.append_nil, List.nil_append]
    exact hwhole

/-- What is read as a word are digits, and the word is what they stand for. -/
theorem of_digits?_eq_some {n : UInt64} (h : Text.digits? cs = some n) :
    (∀ c ∈ cs, c.isDigit = true) ∧ Nat.ofDigitChars 10 cs 0 = n.toNat := by
  unfold Text.digits? at h
  split at h
  · cases h
  · rename_i hdigits
    simp only [Bool.or_eq_true, List.any_eq_true, not_or, not_exists, not_and, Bool.not_eq_true', Bool.not_eq_false] at hdigits
    dsimp only at h
    split at h
    · rename_i hlt
      obtain rfl := Option.some.inj h
      exact ⟨hdigits.2, (UInt64.toNat_ofNat_of_lt' hlt).symm⟩
    · cases h

/-- A value with a text is read as a word exactly when it is the number of this word. -/
theorem word?_eq_some {v : Value} {n : UInt64} (hv : v.Proper) : v.word? = some n ↔ v = .ofNat n.toNat := by
  constructor
  · intro h
    cases hv with
    | number hliteral =>
      obtain ⟨hdigits, hvalue⟩ := of_digits?_eq_some h
      have hwhole := hliteral.whole_of_digits hdigits
      rw [Value.ofNat, ← hvalue, Nat.toString_eq_ofList_toDigits, hwhole.toDigits_ofDigitChars, String.ofList_toList]
    | null | bool | text | array | object => cases h
  · rintro rfl
    exact word?_ofNat n

end Words

/-! ## Members -/

section Members

variable {name : String} {names : List String} {v : Value} {members known : List (String × Value)}

/-- The members are the known ones, in any order and among others, which have other names. -/
def Consists (names : List String) (known members : List (String × Value)) : Prop :=
  ∃ others, members.Perm (known ++ others) ∧ ∀ m ∈ others, m.1 ∉ names

theorem Consists.filter_perm (h : Consists names known members) (hname : name ∈ names) :
    (members.filter (·.1 == name)).Perm (known.filter (·.1 == name)) := by
  obtain ⟨others, hperm, hothers⟩ := h
  have hnone : others.filter (·.1 == name) = [] := by
    rw [List.filter_eq_nil_iff]
    intro m hm heq
    exact hothers m hm (beq_iff_eq.mp heq ▸ hname)
  have hfilter := hperm.filter (·.1 == name)
  rw [List.filter_append, hnone, List.append_nil] at hfilter
  exact hfilter

/-- The members of each known name, and then the others, are all the members. -/
theorem perm_known (hnames : names.Nodup) (members : List (String × Value)) :
    members.Perm ((names.flatMap fun name => members.filter (·.1 == name)) ++ members.filter (fun m => decide (m.1 ∉ names))) := by
  induction names generalizing members with
  | nil => simp [List.filter_true]
  | cons name names ih =>
    obtain ⟨hname, hnames⟩ := List.nodup_cons.mp hnames
    have hknown : (names.flatMap fun n => (members.filter (!·.1 == name)).filter (·.1 == n)) =
        names.flatMap fun n => members.filter (·.1 == n) := by
      refine List.flatMap_congr fun n hn => ?_
      rw [List.filter_filter]
      refine List.filter_congr fun m _ => ?_
      by_cases hm : m.1 = n
      · have hne : m.1 ≠ name := by
          rintro rfl
          exact hname (hm ▸ hn)
        simp [hm, hm ▸ hne]
      · simp [hm]
    have hothers : (members.filter (!·.1 == name)).filter (fun m => decide (m.1 ∉ names)) =
        members.filter (fun m => decide (m.1 ∉ name :: names)) := by
      rw [List.filter_filter]
      refine List.filter_congr fun m _ => ?_
      by_cases hm : m.1 = name <;> simp [hm]
    -- the members of the first name are set apart, and what is left is divided by the other names
    have hrest := ih hnames (members.filter (!·.1 == name))
    rw [hknown, hothers] at hrest
    rw [List.flatMap_cons, List.append_assoc]
    exact (List.filter_append_perm (·.1 == name) members).symm.trans (hrest.append_left _)

/-- Members consist of those of the known names. -/
theorem consists_known (names : List String) (hnames : names.Nodup) (members : List (String × Value)) :
    Consists names (names.flatMap fun name => members.filter (·.1 == name)) members :=
  ⟨_, perm_known hnames members, fun _ hm => of_decide_eq_true (List.mem_filter.mp hm).2⟩

theorem member?_eq_some : member? name members = some v ↔ members.filter (·.1 == name) = [(name, v)] := by
  unfold member?
  constructor
  · intro h
    split at h
    · rename_i key w hfilter
      obtain rfl := Option.some.inj h
      have hmem : (key, w) ∈ members.filter (·.1 == name) := hfilter ▸ List.mem_cons_self
      obtain rfl : key = name := beq_iff_eq.mp (List.mem_filter.mp hmem).2
      exact hfilter
    · cases h
  · intro h
    rw [h]

theorem memberOrNull?_eq_some :
    memberOrNull? name members = some v ↔
      members.filter (·.1 == name) = [(name, v)] ∨ members.filter (·.1 == name) = [] ∧ v = .null := by
  constructor
  · intro h
    unfold memberOrNull? at h
    split at h
    · rename_i hfilter
      exact .inr ⟨hfilter, (Option.some.inj h).symm⟩
    · rename_i key w hfilter
      obtain rfl := Option.some.inj h
      refine .inl (member?_eq_some.mp ?_)
      rw [member?, hfilter]
    · cases h
  · rintro (h | ⟨h, rfl⟩) <;> rw [memberOrNull?, h]

theorem Consists.member? (h : Consists names known members) (name : String) (hname : name ∈ names)
    (hknown : known.filter (·.1 == name) = [(name, v)]) : Json.member? name members = some v := by
  have hperm := h.filter_perm hname
  rw [hknown] at hperm
  exact member?_eq_some.mpr (List.perm_singleton.mp hperm)

theorem Consists.memberOrNull? (h : Consists names known members) (name : String) (hname : name ∈ names)
    (hknown : Json.memberOrNull? name known = some v) : Json.memberOrNull? name members = some v := by
  have hperm := h.filter_perm hname
  rcases memberOrNull?_eq_some.mp hknown with hknown | ⟨hknown, hv⟩
  · rw [hknown] at hperm
    exact memberOrNull?_eq_some.mpr (.inl (List.perm_singleton.mp hperm))
  · rw [hknown] at hperm
    exact memberOrNull?_eq_some.mpr (.inr ⟨List.perm_nil.mp hperm, hv⟩)

/-- A name that occurs twice gives no value. -/
theorem member?_of_twice (h : 1 < members.countP (·.1 == name)) :
    Json.member? name members = none ∧ Json.memberOrNull? name members = none := by
  rw [List.countP_eq_length_filter] at h
  unfold Json.member? Json.memberOrNull?
  match hfilter : members.filter (·.1 == name) with
  | [] => simp [hfilter] at h
  | [_] => simp [hfilter] at h
  | _ :: _ :: _ => simp [hfilter]

/-- A name that is not there gives no value, where a value is needed. -/
theorem member?_of_missing (h : ∀ m ∈ members, m.1 ≠ name) : Json.member? name members = none := by
  have hfilter : members.filter (·.1 == name) = [] := by
    rw [List.filter_eq_nil_iff]
    intro m hm heq
    exact h m hm (beq_iff_eq.mp heq)
  rw [Json.member?, hfilter]

end Members

end Stragglers.Json
