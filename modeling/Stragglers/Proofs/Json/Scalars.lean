import Stragglers.Proofs.Json.Grammar

/-!
# Reading numbers and strings

A literal is read as its number (`leads_literal`), and a string as its text, where a value and where a name stands (`run?_text`,
`run?_name`). A number is known to have ended only by the character behind it, so a text leads to a reading up to the end of a
number (`Leads`), which a comma, a closing mark or space settles.
-/

namespace Stragglers.Json

/-! ## Numbers -/

section number

variable {phase next : NumberPhase} {c : Char} {cs rest : List Char}

/-- A number goes on with the characters and may end behind them. -/
def NumberPhase.Completes (phase : NumberPhase) (cs : List Char) : Prop :=
  ∃ last, cs.foldlM NumberPhase.next? phase = some last ∧ last.isComplete = true

/-- The phase is left as it is by digits. -/
def NumberPhase.KeepsDigits (phase : NumberPhase) : Prop :=
  ∀ d : Char, d.isDigit = true → phase.next? d = some phase

open NumberPhase

/-- A number that may end here is completed by nothing. -/
theorem completes_nil (h : phase.isComplete = true) : phase.Completes [] :=
  ⟨phase, rfl, h⟩

/-- A character that leads to another phase may stand before what completes that one. -/
theorem completes_cons (hc : phase.next? c = some next) (h : next.Completes cs) : phase.Completes (c :: cs) := by
  obtain ⟨last, hlast, hcomplete⟩ := h
  exact ⟨last, by rw [List.foldlM_cons, hc]; exact hlast, hcomplete⟩

/-- What completes a number begins with a character that the number goes on with. -/
theorem NumberPhase.Completes.exists_next (h : phase.Completes (c :: cs)) :
    ∃ next, phase.next? c = some next ∧ next.Completes cs := by
  obtain ⟨last, hlast, hcomplete⟩ := h
  rw [List.foldlM_cons] at hlast
  cases hc : phase.next? c with
  | none =>
    rw [hc] at hlast
    cases hlast
  | some next =>
    rw [hc] at hlast
    exact ⟨next, rfl, last, hlast, hcomplete⟩

/-- Digits may stand before what completes a number, where they leave the phase as it is. -/
theorem completes_digits (hphase : phase.KeepsDigits) (hcs : ∀ d ∈ cs, d.isDigit = true) (h : phase.Completes rest) :
    phase.Completes (cs ++ rest) := by
  induction cs with
  | nil => exact h
  | cons d cs ih =>
    obtain ⟨hd, hcs⟩ := List.forall_mem_cons.mp hcs
    exact completes_cons (hphase d hd) (ih hcs)

/-- One digit or more may stand before what completes a number, where the first leads to a phase that the others leave as it is. -/
theorem Digits.completes (hcs : Digits cs) (hphase : ∀ d : Char, d.isDigit = true → phase.next? d = some next)
    (hnext : next.KeepsDigits) (h : next.Completes rest) : phase.Completes (cs ++ rest) := by
  obtain ⟨hne, hcs⟩ := hcs
  cases cs with
  | nil => exact absurd rfl hne
  | cons d cs =>
    obtain ⟨hd, hcs⟩ := List.forall_mem_cons.mp hcs
    exact completes_cons (hphase d hd) (completes_digits hnext hcs h)

theorem keepsDigits_whole : whole.KeepsDigits := fun _ hd => if_pos hd

theorem keepsDigits_fraction : fraction.KeepsDigits := fun _ hd => if_pos hd

theorem keepsDigits_exponentDigits : exponentDigits.KeepsDigits := fun _ hd => if_pos hd

/-- An exponent completes a number that may end before it and goes on with its letter. -/
theorem Exponent.completes (h : Exponent cs) (hcomplete : phase.isComplete = true)
    (hphase : ∀ e, e = 'e' ∨ e = 'E' → phase.next? e = some exponent) : phase.Completes cs := by
  cases h with
  | absent => exact completes_nil hcomplete
  | @present e sign cs he hsign hdigits =>
    have hend : exponentDigits.Completes [] := completes_nil rfl
    have hstart : ∀ d : Char, d.isDigit = true → exponent.next? d = some exponentDigits := fun d hd => if_pos hd
    refine completes_cons (hphase e he) ?_
    rw [← List.append_nil cs]
    rcases hsign with rfl | rfl | rfl
    · exact hdigits.completes hstart keepsDigits_exponentDigits hend
    · have hplus : exponent.next? '+' = some exponentSign := rfl
      exact completes_cons hplus (hdigits.completes keepsDigits_exponentDigits keepsDigits_exponentDigits hend)
    · have hminus : exponent.next? '-' = some exponentSign := rfl
      exact completes_cons hminus (hdigits.completes keepsDigits_exponentDigits keepsDigits_exponentDigits hend)

/-- A fraction and the exponent behind it complete a number that may end before them and goes on with a point. -/
theorem Fraction.completes {exp : List Char} (h : Fraction cs) (hexp : Exponent exp) (hcomplete : phase.isComplete = true)
    (hpoint : phase.next? '.' = some point) (hphase : ∀ e, e = 'e' ∨ e = 'E' → phase.next? e = some exponent) :
    phase.Completes (cs ++ exp) := by
  cases h with
  | absent => exact hexp.completes hcomplete hphase
  | present hdigits =>
    refine completes_cons hpoint (hdigits.completes (fun d hd => if_pos hd) keepsDigits_fraction ?_)
    refine hexp.completes rfl fun e he => ?_
    rcases he with rfl | rfl <;> rfl

/-- What a number without a sign begins with is what may follow a sign. -/
theorem Whole.completes {frac exp : List Char} (h : Whole cs) (hfrac : Fraction frac) (hexp : Exponent exp) :
    sign.Completes (cs ++ (frac ++ exp)) := by
  cases h with
  | zero =>
    have hstart : sign.next? '0' = some NumberPhase.zero := rfl
    refine completes_cons hstart (hfrac.completes hexp rfl rfl fun e he => ?_)
    rcases he with rfl | rfl <;> rfl
  | @digits c cs hc hzero hcs =>
    have hstart : sign.next? c = some whole := (if_neg hzero).trans (if_pos hc)
    refine completes_cons hstart (completes_digits keepsDigits_whole hcs ?_)
    refine hfrac.completes hexp rfl rfl fun e he => ?_
    rcases he with rfl | rfl <;> rfl

end number

namespace Reading

variable {r q : Reading} {cs : List Char} {c : Char}

/-! ## Ends of numbers -/

/-- The reading in which a number that may end here has ended. -/
def settled (r : Reading) : Reading :=
  match r.expected with
  | .number literal phase => if phase.isComplete then finish (numberOf literal) r.stack else r
  | _ => r

/-- The text leads from one reading to another in which a number at its end has ended. -/
def Leads (r : Reading) (cs : List Char) (q : Reading) : Prop :=
  ∃ last, r.run? cs = some last ∧ last.settled = q

/-- No number goes on with the character. -/
def EndsNumber (c : Char) : Prop :=
  ∀ phase : NumberPhase, phase.next? c = none

theorem endsNumber_comma : EndsNumber ',' := fun phase => by cases phase <;> rfl

theorem endsNumber_bracket : EndsNumber ']' := fun phase => by cases phase <;> rfl

theorem endsNumber_brace : EndsNumber '\x7d' := fun phase => by cases phase <;> rfl

/-- Space ends numbers. -/
theorem endsNumber_of_isSpace (h : isSpace c = true) : EndsNumber c := by
  simp only [isSpace, Bool.or_eq_true, decide_eq_true_eq] at h
  rcases h with ((rfl | rfl) | rfl) | rfl <;> exact fun phase => by cases phase <;> rfl

/-- Behind a value no number is open. -/
theorem settled_finish (v : Value) (stack : List Enclosing) : (finish v stack).settled = finish v stack := by
  rcases stack with _ | ⟨_ | _, stack⟩ <;> rfl

/-- Behind a value a character is read as between the parts. -/
theorem step?_finish (v : Value) (stack : List Enclosing) (c : Char) :
    (finish v stack).step? c = (finish v stack).between? c := by
  rcases stack with _ | ⟨_ | _, stack⟩ <;> rfl

/-- The character behind a number is read as behind the value. -/
theorem step?_settled (hc : EndsNumber c) (r : Reading) : r.settled.step? c = r.step? c := by
  obtain ⟨stack, expected⟩ := r
  unfold settled
  split
  · rename_i literal phase hexpected
    obtain rfl : expected = .number literal phase := hexpected
    by_cases hcomplete : phase.isComplete = true
    · rw [if_pos hcomplete, step?_finish]
      simp only [step?, hc phase, hcomplete, if_true]
    · rw [if_neg hcomplete]
  · rfl

/-- What may end here has the same value with its number ended. -/
theorem value?_settled (r : Reading) : r.settled.value? = r.value? := by
  obtain ⟨stack, expected⟩ := r
  unfold settled
  split
  · rename_i literal phase hexpected
    obtain rfl : expected = .number literal phase := hexpected
    by_cases hcomplete : phase.isComplete = true
    · rw [if_pos hcomplete]
      rcases stack with _ | ⟨_ | _, stack⟩ <;> simp [finish, value?, hcomplete]
    · rw [if_neg hcomplete]
  · rfl

/-- What follows a text is read from where the text leads, if it begins with a character that ends numbers. -/
theorem Leads.run?_append_cons (h : r.Leads cs q) (hc : EndsNumber c) (rest : List Char) :
    r.run? (cs ++ c :: rest) = q.run? (c :: rest) := by
  obtain ⟨last, hrun, rfl⟩ := h
  rw [run?_append, hrun, Option.bind_some, run?, run?, step?_settled hc]

/-- A text that leads somewhere leads there behind another text. -/
theorem leads_append {a : List Char} {mid : Reading} (ha : r.run? a = some mid) (h : mid.Leads cs q) :
    r.Leads (a ++ cs) q := by
  obtain ⟨last, hrun, hsettled⟩ := h
  exact ⟨last, by rw [run?_append, ha, Option.bind_some, hrun], hsettled⟩

/-- A text that leads somewhere leads there behind a character. -/
theorem leads_cons {mid : Reading} (hc : r.step? c = some mid) (h : mid.Leads cs q) : r.Leads (c :: cs) q :=
  leads_append (a := [c]) (by simp only [run?, hc]) h

/-- Behind a text a character that ends numbers may lead on. -/
theorem Leads.append_cons {mid last : Reading} (h : r.Leads cs mid) (hc : EndsNumber c) {rest : List Char}
    (hrest : mid.Leads (c :: rest) last) : r.Leads (cs ++ c :: rest) last := by
  obtain ⟨final, hrun, hsettled⟩ := hrest
  exact ⟨final, by rw [h.run?_append_cons hc, hrun], hsettled⟩

/-- A text that is read up to a reading without an open number leads to it. -/
theorem leads_of_run? (h : r.run? cs = some q) (hq : q.settled = q) : r.Leads cs q :=
  ⟨q, h, hq⟩

/-! ## Space -/

/-- Space is passed over here. -/
def Between (r : Reading) : Prop :=
  ∀ c, isSpace c = true → r.step? c = some r

/-- Space is passed over behind a value. -/
theorem between_finish (v : Value) (stack : List Enclosing) : (finish v stack).Between := by
  intro c hc
  rw [step?_finish, between?, if_pos hc]

/-- Where space is passed over, any amount of it is. -/
theorem Between.run?_spaces (h : r.Between) (hcs : Spaces cs) : r.run? cs = some r := by
  induction cs with
  | nil => rfl
  | cons c cs ih =>
    obtain ⟨hc, hcs⟩ := List.forall_mem_cons.mp hcs
    rw [run?, h c hc]
    exact ih hcs

/-- Space behind a value changes nothing. -/
theorem Leads.append_spaces {v : Value} {stack : List Enclosing} (h : r.Leads cs (finish v stack)) {blank : List Char}
    (hblank : Spaces blank) : r.Leads (cs ++ blank) (finish v stack) := by
  cases blank with
  | nil => rwa [List.append_nil]
  | cons c blank =>
    have hc : EndsNumber c := endsNumber_of_isSpace (hblank c List.mem_cons_self)
    refine leads_of_run? ?_ (settled_finish v stack)
    rw [h.run?_append_cons hc]
    exact (between_finish v stack).run?_spaces hblank

/-! ## Numbers -/

variable {stack : List Enclosing}

/-- The characters of a number are put before those that were read, the latest first. -/
theorem run?_number {phase last : NumberPhase} {literal : List Char} (h : cs.foldlM NumberPhase.next? phase = some last) :
    Reading.run? ⟨stack, .number literal phase⟩ cs = some ⟨stack, .number (cs.reverse ++ literal) last⟩ := by
  induction cs generalizing phase literal with
  | nil =>
    cases h
    rfl
  | cons c cs ih =>
    rw [List.foldlM_cons] at h
    cases hc : phase.next? c with
    | none =>
      rw [hc] at h
      cases h
    | some next =>
      rw [hc] at h
      have hrest : Reading.run? ⟨stack, .number (c :: literal) next⟩ cs = some ⟨stack, .number (cs.reverse ++ c :: literal) last⟩ :=
        ih h
      rw [run?]
      simp only [step?, hc, hrest, List.reverse_cons, List.append_assoc, List.singleton_append]

/-- Where a number may go on behind its sign, a number without a sign may begin. -/
theorem begin?_of_next? {phase : NumberPhase} (h : NumberPhase.sign.next? c = some phase) :
    begin? stack c = some ⟨stack, .number [c] phase⟩ := by
  by_cases hzero : c = '0'
  · subst hzero
    cases h
    rfl
  · rw [NumberPhase.next?, if_neg hzero] at h
    by_cases hc : c.isDigit = true
    · rw [if_pos hc] at h
      cases h
      unfold begin?
      split <;> first | exact absurd hc (by decide) | exact absurd rfl hzero | exact if_pos hc
    · rw [if_neg hc] at h
      cases h

/-- What begins a value is no space. -/
theorem step?_value {q : Reading} (h : begin? stack c = some q) : Reading.step? ⟨stack, .value⟩ c = some q := by
  have hc : isSpace c = false := by
    rw [Bool.eq_false_iff]
    intro hspace
    simp only [isSpace, Bool.or_eq_true, decide_eq_true_eq] at hspace
    rcases hspace with ((rfl | rfl) | rfl) | rfl <;> cases h
  simp only [step?, between?, hc, Bool.false_eq_true, if_false]
  exact h

/-- Where a number begins, what completes it leads behind the number. -/
theorem leads_number {phase : NumberPhase} (hc : begin? stack c = some ⟨stack, .number [c] phase⟩) (h : phase.Completes cs) :
    Leads ⟨stack, .value⟩ (c :: cs) (finish (.number (String.ofList (c :: cs))) stack) := by
  obtain ⟨last, hrun, hcomplete⟩ := h
  refine ⟨⟨stack, .number (cs.reverse ++ [c]) last⟩, ?_, ?_⟩
  · rw [run?, step?_value hc]
    exact run?_number hrun
  · simp [settled, hcomplete, numberOf]

/-- A literal is read as its number. -/
theorem leads_literal (h : Literal cs) : Leads ⟨stack, .value⟩ cs (finish (.number (String.ofList cs)) stack) := by
  cases h with
  | @parts sgn whole frac exp hsign hwhole hfrac hexp =>
    have hcompletes := hwhole.completes hfrac hexp
    rcases hsign with rfl | rfl
    · obtain ⟨c, cs, hcs⟩ : ∃ c cs, whole ++ (frac ++ exp) = c :: cs := by
        cases hwhole <;> exact ⟨_, _, rfl⟩
      rw [hcs] at hcompletes
      obtain ⟨phase, hc, hphase⟩ := hcompletes.exists_next
      rw [List.nil_append, hcs]
      exact leads_number (begin?_of_next? hc) hphase
    · exact leads_number rfl hcompletes

/-! ## Strings -/

/-- A reading that goes on with what stands in a string as the string does. -/
def Within (within : List Nat → StringPhase → Reading) : Prop :=
  ∀ ⦃units phase c units' phase'⦄, stringStep? units phase c = some (.next units' phase') →
    (within units phase).step? c = some (within units' phase')

/-- The code units, the latest first, stand for the characters, whatever stood before them. -/
def StandFor (units : List Nat) (text : List Char) : Prop :=
  ∀ before rest, ofUnits? (units ++ before) rest = ofUnits? before (text ++ rest)

/-- Code units of one text before those of another stand for the two texts together. -/
theorem standFor_append {a b : List Nat} {s t : List Char} (ha : StandFor a s) (hb : StandFor b t) :
    StandFor (b ++ a) (s ++ t) := by
  intro before rest
  rw [List.append_assoc, hb, ha, List.append_assoc]

/-- A character that has a code unit of its own is read from it. -/
theorem standFor_char (c : Char) : StandFor [c.toNat] [c] := by
  intro before rest
  have hc : c.toNat.isValidChar := c.valid
  rw [List.singleton_append, ofUnits?.eq_def]
  simp only [hc, if_true, Char.ofNat_toNat, List.singleton_append]

/-- A character beyond the code units is read from a pair of them. -/
theorem standFor_pair {high low : Nat} (hhigh : 0xd800 ≤ high ∧ high < 0xdc00) (hlow : 0xdc00 ≤ low ∧ low < 0xe000)
    (hc : c.toNat = 0x10000 + (high - 0xd800) * 0x400 + (low - 0xdc00)) : StandFor [low, high] [c] := by
  intro before rest
  have hinvalid : ¬low.isValidChar := by
    rintro (h | h) <;> omega
  rw [List.cons_append, ofUnits?.eq_def]
  simp only [hinvalid, if_false, List.singleton_append, hhigh, hlow, and_self, if_true, ← hc, Char.ofNat_toNat]

/-- A text whose code units are read is that text. -/
theorem textOf?_of_standFor {units : List Nat} {s : String} (h : StandFor units s.toList) : textOf? units = some s := by
  have hunits := h [] []
  rw [List.append_nil, List.append_nil] at hunits
  rw [textOf?, hunits, ofUnits?, Option.map_some, String.ofList_toList]

section within

variable {within : List Nat → StringPhase → Reading}

/-- A digit of a code unit is added to those before it. -/
theorem Within.step?_digit (hw : Within within) {units : List Nat} {missing value d : Nat} (hc : hexValue? c = some d) :
    (within units (.unit (missing + 2) value)).step? c = some (within units (.unit (missing + 1) (16 * value + d))) := by
  refine hw ?_
  rw [stringStep?, hc]
  rfl

/-- The last digit of a code unit completes it. -/
theorem Within.step?_lastDigit (hw : Within within) {units : List Nat} {value d : Nat} (hc : hexValue? c = some d) :
    (within units (.unit 1 value)).step? c = some (within ((16 * value + d) :: units) .plain) := by
  refine hw ?_
  rw [stringStep?, hc]
  rfl

/-- Four digits are read as the code unit that they stand for. -/
theorem Within.run?_codeUnit (hw : Within within) (units : List Nat) {unit : Nat} (h : codeUnit? cs = some unit) :
    (within units (.unit 4 0)).run? cs = some (within (unit :: units) .plain) := by
  obtain ⟨a, b, c, d, va, vb, vc, vd, rfl, ha, hb, hc, hd, rfl⟩ := exists_of_codeUnit? h
  simp only [run?, hw.step?_digit ha, hw.step?_digit hb, hw.step?_digit hc, hw.step?_lastDigit hd, Nat.mul_zero, Nat.zero_add]

/-- A spelled character is read as code units that stand for it. -/
theorem Within.run?_char (hw : Within within) (units : List Nat) (h : SpellsChar c cs) :
    ∃ new, StandFor new [c] ∧ (within units .plain).run? cs = some (within (new ++ units) .plain) := by
  cases h with
  | plain hquote hbackslash hcontrol =>
    have hstep : stringStep? units .plain c = some (.next (c.toNat :: units) .plain) := by
      rw [stringStep?, if_neg hquote, if_neg hbackslash, if_neg (Nat.not_lt.mpr hcontrol)]
    exact ⟨[c.toNat], standFor_char c, by rw [run?, hw hstep]; rfl⟩
  | @escape letter hletter =>
    have hu : letter ≠ 'u' := by
      rintro rfl
      cases hletter
    have hbackslash : stringStep? units .plain '\\' = some (.next units .escape) := rfl
    have hstep : stringStep? units .escape letter = some (.next (c.toNat :: units) .plain) := by
      rw [stringStep?, if_neg hu, hletter]
      rfl
    exact ⟨[c.toNat], standFor_char c, by simp only [run?, hw hbackslash, hw hstep, List.singleton_append]⟩
  | unit hdigits =>
    have hbackslash : stringStep? units .plain '\\' = some (.next units .escape) := rfl
    have hu : stringStep? units .escape 'u' = some (.next units (.unit 4 0)) := rfl
    refine ⟨[c.toNat], standFor_char c, ?_⟩
    simp only [run?, hw hbackslash, hw hu, hw.run?_codeUnit _ hdigits, List.singleton_append]
  | @pair leading trailing high low hleading htrailing hhigh hlow hc =>
    have hbackslash : ∀ units, stringStep? units .plain '\\' = some (.next units .escape) := fun _ => rfl
    have hu : ∀ units, stringStep? units .escape 'u' = some (.next units (.unit 4 0)) := fun _ => rfl
    refine ⟨[low, high], standFor_pair hhigh hlow hc, ?_⟩
    simp only [run?, hw (hbackslash _), hw (hu _), run?_append, hw.run?_codeUnit _ hleading, Option.bind_some,
      hw.run?_codeUnit _ htrailing, List.cons_append, List.nil_append]

/-- Spelled characters are read as code units that stand for them. -/
theorem Within.run?_chars (hw : Within within) (units : List Nat) {text : List Char} (h : SpellsChars text cs) :
    ∃ new, StandFor new text ∧ (within units .plain).run? cs = some (within (new ++ units) .plain) := by
  induction h generalizing units with
  | nil => exact ⟨[], fun _ _ => rfl, rfl⟩
  | cons hc _ ih =>
    obtain ⟨first, hfirst, hrun⟩ := hw.run?_char units hc
    obtain ⟨others, hothers, hrest⟩ := ih (first ++ units)
    refine ⟨others ++ first, standFor_append hfirst hothers, ?_⟩
    rw [run?_append, hrun, Option.bind_some, hrest, List.append_assoc]

end within

/-- A string that is a value is read as a string. -/
theorem within_string (stack : List Enclosing) : Within fun units phase => ⟨stack, .string units phase⟩ := by
  intro units phase c units' phase' h
  simp only [step?, h, Option.map_some]

/-- A string that is a name is read as a string. -/
theorem within_name (stack : List Enclosing) (before : Members) :
    Within fun units phase => ⟨stack, .name before units phase⟩ := by
  intro units phase c units' phase' h
  simp only [step?, h, Option.map_some]

/-- Where a value stands, a string is read as its text. -/
theorem run?_text {s : String} (h : SpellsText s cs) :
    Reading.run? ⟨stack, .value⟩ cs = some (finish (.text s) stack) := by
  cases h with
  | quoted hbody =>
    obtain ⟨units, hunits, hrun⟩ := (within_string stack).run?_chars [] hbody
    have hopen : Reading.step? ⟨stack, .value⟩ '"' = some ⟨stack, .string [] .plain⟩ := rfl
    have hclose : Reading.step? ⟨stack, .string units .plain⟩ '"' = some (finish (.text s) stack) := by
      simp [step?, stringStep?, textOf?_of_standFor hunits]
    rw [List.append_nil] at hrun
    simp only [run?, hopen, run?_append, hrun, Option.bind_some, hclose]

/-- Where a name stands, a string is read as the name. -/
theorem run?_name {name : String} {before : Members} (h : SpellsText name cs) :
    Reading.run? ⟨stack, .nextName before⟩ cs = some ⟨stack, .colon before (some name)⟩ := by
  cases h with
  | quoted hbody =>
    obtain ⟨units, hunits, hrun⟩ := (within_name stack before).run?_chars [] hbody
    have hopen : Reading.step? ⟨stack, .nextName before⟩ '"' = some ⟨stack, .name before [] .plain⟩ := rfl
    have hclose : Reading.step? ⟨stack, .name before units .plain⟩ '"' = some ⟨stack, .colon before (some name)⟩ := by
      simp [step?, stringStep?, textOf?_of_standFor hunits]
    rw [List.append_nil] at hrun
    simp only [run?, hopen, run?_append, hrun, Option.bind_some, hclose]

end Reading

end Stragglers.Json
