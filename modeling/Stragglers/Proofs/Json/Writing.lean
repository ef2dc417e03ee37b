import Stragglers.Proofs.Json.Grammar

/-!
# What a writer writes

The text of a value in either layout spells the value (`Proper.spells_pieces`), and the layouts differ in nothing but the space
outside of strings (`squeezed_write`). This holds of values that have a text: their numbers are literals, and nothing in them is
unreadable (`Value.Proper`).
-/

namespace Stragglers.Json

/-- The value has a text. -/
inductive Value.Proper : Value → Prop where
  | null : Proper .null
  | bool (b : Bool) : Proper (.bool b)
  | number {literal : String} (h : Literal literal.toList) : Proper (.number literal)
  | text (s : String) : Proper (.text s)
  | array {vs : List Value} (h : ∀ v ∈ vs, v.Proper) : Proper (.array vs)
  | object {ms : List (String × Value)} (h : ∀ m ∈ ms, m.2.Proper) : Proper (.object ms)

/-- The characters of pieces. -/
def chars (pieces : List String) : List Char :=
  pieces.flatMap String.toList

@[simp] theorem chars_nil : chars [] = [] := rfl

@[simp] theorem chars_cons (piece : String) (pieces : List String) : chars (piece :: pieces) = piece.toList ++ chars pieces :=
  List.flatMap_cons

@[simp] theorem chars_append (a b : List String) : chars (a ++ b) = chars a ++ chars b :=
  List.flatMap_append

/-- The characters of pieces that are joined are those of the pieces. -/
theorem toList_joined (pieces : List String) : (joined pieces).toList = chars pieces := String.toList_ofList

/-- A layout puts nothing but space between the parts of a value. -/
theorem spaces_lineBreak (layout : Layout) (depth : Nat) : Spaces (layout.lineBreak depth).toList := by
  cases layout with
  | compact => simp [Layout.lineBreak, Spaces]
  | indented =>
    intro c hc
    simp only [Layout.lineBreak, String.toList_ofList, List.mem_cons, List.mem_replicate] at hc
    rcases hc with rfl | ⟨-, rfl⟩ <;> rfl

theorem spaces_nil : Spaces [] := fun _ h => absurd h List.not_mem_nil

/-! ## Numbers -/

theorem digitChar_ne_zero : ∀ n < 10, n ≠ 0 → n.digitChar ≠ '0' := by
  decide

/-- The digits of a number other than zero do not begin with a zero. -/
theorem toDigits_head {n : Nat} (hn : n ≠ 0) : ∃ c cs, Nat.toDigits 10 n = c :: cs ∧ c ≠ '0' := by
  induction n using Nat.strongRecOn with
  | ind n ih =>
    by_cases hlt : n < 10
    · exact ⟨n.digitChar, [], Nat.toDigits_of_lt_base hlt, digitChar_ne_zero n hlt hn⟩
    · have hdiv : n / 10 ≠ 0 := by omega
      obtain ⟨c, cs, hcs, hc⟩ := ih (n / 10) (by omega) hdiv
      exact ⟨c, cs ++ [(n % 10).digitChar], by rw [Nat.toDigits_of_base_le (by omega) (by omega), hcs]; rfl, hc⟩

/-- The digits of a number are a literal. -/
theorem literal_toDigits (n : Nat) : Literal (Nat.toDigits 10 n) := by
  have hwhole : Whole (Nat.toDigits 10 n) := by
    by_cases hn : n = 0
    · subst hn
      exact .zero
    · obtain ⟨c, cs, hcs, hc⟩ := toDigits_head hn
      have hdigits : ∀ d ∈ c :: cs, d.isDigit = true := fun d hd =>
        Nat.isDigit_of_mem_toDigits (b := 10) (by decide) (by decide) (hcs ▸ hd)
      obtain ⟨hdigit, hdigits⟩ := List.forall_mem_cons.mp hdigits
      exact hcs ▸ .digits hdigit hc hdigits
  have hliteral := Literal.parts (Or.inl rfl) hwhole .absent .absent
  simpa using hliteral

/-- The value of a number in digits has a text. -/
theorem proper_ofNat (n : Nat) : (Value.ofNat n).Proper := by
  refine .number ?_
  rw [Text.toList_toString]
  exact literal_toDigits n

/-! ## Strings -/

/-- The two digits of a control character stand for it. -/
theorem codeUnit?_hexDigits : ∀ n < 0x20, codeUnit? ['0', '0', hexDigit (n / 16), hexDigit n] = some n := by
  decide

/-- A character is spelled by its escaped form. -/
theorem spellsChar_escapedChar (c : Char) : SpellsChar c (escapedChar c) := by
  unfold escapedChar
  split
  iterate 7 exact .escape rfl
  rename_i hquote hbackslash _ _ _ _ _
  split
  · rename_i hcontrol
    exact .unit (codeUnit?_hexDigits _ hcontrol)
  · rename_i hcontrol
    exact .plain hquote hbackslash (Nat.not_lt.mp hcontrol)

/-- Characters are spelled by their escaped forms, one after the other. -/
theorem spellsChars_escapedChar (cs : List Char) : SpellsChars cs (cs.flatMap escapedChar) := by
  induction cs with
  | nil => exact .nil
  | cons c cs ih => exact .cons (spellsChar_escapedChar c) ih

/-- A text is spelled by the string that is written for it. -/
theorem spellsText_stringText (s : String) : SpellsText s (stringText s).toList := by
  rw [stringText, String.toList_ofList]
  exact .quoted (spellsChars_escapedChar s.toList)

/-! ## Values -/

section pieces

variable {layout : Layout}

/-- A value is spelled wherever it stands. -/
def SpelledAnywhere (layout : Layout) (v : Value) : Prop :=
  ∀ depth, Spells (.value v) (chars (v.pieces layout depth))

/-- The space behind a colon. -/
theorem exists_colon (layout : Layout) : ∃ blank, layout.colon.toList = ':' :: blank ∧ Spaces blank := by
  cases layout with
  | compact => exact ⟨[], rfl, spaces_nil⟩
  | indented =>
    refine ⟨[' '], rfl, fun c hc => ?_⟩
    rw [List.mem_singleton.mp hc]
    rfl

/-- Elements are spelled as they are written, with space behind the last. -/
theorem spells_elements {v : Value} {vs : List Value} (hv : ∀ u ∈ v :: vs, SpelledAnywhere layout u) (depth : Nat)
    {after : List Char} (hafter : Spaces after) :
    Spells (.elements (v :: vs)) ((layout.lineBreak depth).toList ++
      (chars (v.pieces layout depth) ++ (chars (elementPieces layout depth vs) ++ after))) := by
  induction vs generalizing v with
  | nil =>
    exact .lastElement (.spaced (spaces_lineBreak layout depth) (hv v List.mem_cons_self depth) hafter)
  | cons w vs ih =>
    obtain ⟨hv, hvs⟩ := List.forall_mem_cons.mp hv
    have hfirst : Spells (.spaced v) ((layout.lineBreak depth).toList ++ (chars (v.pieces layout depth) ++ [])) :=
      .spaced (spaces_lineBreak layout depth) (hv depth) spaces_nil
    simpa [elementPieces] using Spells.nextElement hfirst (ih hvs)

/-- A member is spelled as it is written, with space behind it. -/
theorem spells_member (name : String) {v : Value} (hv : SpelledAnywhere layout v) (depth : Nat) {after : List Char}
    (hafter : Spaces after) :
    Spells (.member name v) ((layout.lineBreak depth).toList ++
      ((stringText name).toList ++ (layout.colon.toList ++ (chars (v.pieces layout depth) ++ after)))) := by
  obtain ⟨blank, hcolon, hblank⟩ := exists_colon layout
  have hvalue : Spells (.spaced v) (blank ++ (chars (v.pieces layout depth) ++ after)) := .spaced hblank (hv depth) hafter
  have hmember := Spells.member (spaces_lineBreak layout depth) (spellsText_stringText name) spaces_nil hvalue
  rwa [List.nil_append, ← List.cons_append, ← hcolon] at hmember

/-- Members are spelled as they are written, with space behind the last. -/
theorem spells_members {name : String} {v : Value} {ms : List (String × Value)}
    (hv : ∀ m ∈ (name, v) :: ms, SpelledAnywhere layout m.2) (depth : Nat) {after : List Char} (hafter : Spaces after) :
    Spells (.members ((name, v) :: ms)) ((layout.lineBreak depth).toList ++ ((stringText name).toList ++
      (layout.colon.toList ++ (chars (v.pieces layout depth) ++ (chars (memberPieces layout depth ms) ++ after))))) := by
  induction ms generalizing name v with
  | nil => exact .lastMember (spells_member name (hv _ List.mem_cons_self) depth hafter)
  | cons m ms ih =>
    obtain ⟨name', v'⟩ := m
    obtain ⟨hv, hms⟩ := List.forall_mem_cons.mp hv
    simpa [memberPieces] using Spells.nextMember (spells_member name hv depth spaces_nil) (ih hms)

/-- A value that has a text is spelled as it is written. -/
theorem Value.Proper.spells_pieces {v : Value} (h : v.Proper) (layout : Layout) : SpelledAnywhere layout v := by
  induction h with
  | null => exact fun _ => .null
  | bool b => exact fun _ => by cases b <;> exact .bool _
  | number h => exact fun _ => by simpa [Value.pieces] using Spells.number h
  | text s => exact fun _ => by simpa [Value.pieces] using Spells.text (spellsText_stringText s)
  | @array vs _ ih =>
    intro depth
    cases vs with
    | nil => exact .emptyArray spaces_nil
    | cons v vs =>
      simpa [Value.pieces] using Spells.array (spells_elements ih (depth + 1) (spaces_lineBreak layout depth))
  | @object ms _ ih =>
    intro depth
    cases ms with
    | nil => exact .emptyObject spaces_nil
    | cons m ms =>
      obtain ⟨name, v⟩ := m
      simpa [Value.pieces] using Spells.object (spells_members ih (depth + 1) (spaces_lineBreak layout depth))

/-- The text of a value spells it. -/
theorem Value.Proper.spells_write {v : Value} (h : v.Proper) (layout : Layout) :
    Spells (.spaced v) (v.write layout).toList := by
  rw [Value.write, toList_joined]
  simpa using Spells.spaced spaces_nil (h.spells_pieces layout 0) spaces_nil

end pieces

/-! ## Space between the parts -/

/-- Where a text stands: outside of strings, within one, or behind a backslash in one. -/
inductive Place where
  | outside | inside | escaped

/-- The characters but for the space outside of strings. -/
def squeeze : Place → List Char → List Char
  | _, [] => []
  | .outside, c :: cs =>
    if Reading.isSpace c then squeeze .outside cs else c :: squeeze (if c = '"' then .inside else .outside) cs
  | .inside, c :: cs => c :: squeeze (if c = '"' then .outside else if c = '\\' then .escaped else .inside) cs
  | .escaped, c :: cs => c :: squeeze .inside cs

/-- The text without the space that stands outside of strings. -/
def squeezed (s : String) : String :=
  String.ofList (squeeze .outside s.toList)

/-- Outside of strings the one text is what is left of the other, whatever follows. -/
def Squeezes (a b : List Char) : Prop :=
  ∀ rest, squeeze .outside (a ++ rest) = b ++ squeeze .outside rest

section squeezes

variable {a b a' b' : List Char}

/-- What is left of two texts is left of them together. -/
theorem Squeezes.append (h : Squeezes a b) (h' : Squeezes a' b') : Squeezes (a ++ a') (b ++ b') := by
  intro rest
  rw [List.append_assoc, h, h', List.append_assoc]

theorem squeezes_nil : Squeezes [] [] := fun _ => rfl

/-- Nothing is left of space. -/
theorem squeezes_spaces (h : Spaces a) : Squeezes a [] := by
  induction a with
  | nil => exact squeezes_nil
  | cons c a ih =>
    obtain ⟨hc, ha⟩ := List.forall_mem_cons.mp h
    intro rest
    rw [List.cons_append, squeeze, if_pos hc]
    exact ih ha rest

/-- A character that is neither space nor a quote is left. -/
theorem squeezes_char {c : Char} (hspace : Reading.isSpace c = false) (hquote : c ≠ '"') : Squeezes [c] [c] := by
  intro rest
  rw [List.singleton_append, squeeze, hspace, if_neg Bool.false_ne_true, if_neg hquote, List.singleton_append]

/-- Characters that are neither space nor quotes are left. -/
theorem squeezes_chars (h : ∀ c ∈ a, Reading.isSpace c = false ∧ c ≠ '"') : Squeezes a a := by
  induction a with
  | nil => exact squeezes_nil
  | cons c a ih =>
    obtain ⟨⟨hspace, hquote⟩, ha⟩ := List.forall_mem_cons.mp h
    exact (squeezes_char hspace hquote).append (ih ha)

/-- A digit of a code unit ends no string. -/
theorem codeUnit?_not_quote {unit : Nat} (h : codeUnit? a = some unit) : ∀ c ∈ a, c ≠ '"' ∧ c ≠ '\\' := by
  have hdigit : ∀ {c : Char} {d : Nat}, hexValue? c = some d → c ≠ '"' ∧ c ≠ '\\' := by
    intro c d hv
    constructor <;> (rintro rfl; cases hv)
  obtain ⟨x, y, z, w, _, _, _, _, rfl, hx, hy, hz, hw, -⟩ := exists_of_codeUnit? h
  simp only [List.forall_mem_cons]
  exact ⟨hdigit hx, hdigit hy, hdigit hz, hdigit hw, fun _ hmem => absurd hmem List.not_mem_nil⟩

/-- Within a string all characters are left. -/
theorem squeeze_inside_chars (h : ∀ c ∈ a, c ≠ '"' ∧ c ≠ '\\') (rest : List Char) :
    squeeze .inside (a ++ rest) = a ++ squeeze .inside rest := by
  induction a with
  | nil => rfl
  | cons c a ih =>
    obtain ⟨⟨hquote, hbackslash⟩, ha⟩ := List.forall_mem_cons.mp h
    rw [List.cons_append, squeeze, if_neg hquote, if_neg hbackslash, ih ha, List.cons_append]

/-- A spelled character is left, and the text stays within the string. -/
theorem SpellsChar.squeeze_inside {c : Char} (h : SpellsChar c a) (rest : List Char) :
    squeeze .inside (a ++ rest) = a ++ squeeze .inside rest := by
  have hbackslash : ∀ cs, squeeze .inside ('\\' :: cs) = '\\' :: squeeze .escaped cs := fun _ => rfl
  have hescaped : ∀ c cs, squeeze .escaped (c :: cs) = c :: squeeze .inside cs := fun _ _ => rfl
  cases h with
  | plain hquote hback =>
    refine squeeze_inside_chars (fun d hd => ?_) rest
    rw [List.mem_singleton.mp hd]
    exact ⟨hquote, hback⟩
  | escape => simp only [List.cons_append, List.nil_append, hbackslash, hescaped]
  | unit hdigits =>
    simp only [List.cons_append, hbackslash, hescaped, squeeze_inside_chars (codeUnit?_not_quote hdigits)]
  | pair hleading htrailing =>
    simp only [List.cons_append, List.append_assoc, hbackslash, hescaped, squeeze_inside_chars (codeUnit?_not_quote hleading),
      squeeze_inside_chars (codeUnit?_not_quote htrailing)]

/-- Spelled characters are left, and the text stays within the string. -/
theorem SpellsChars.squeeze_inside {text : List Char} (h : SpellsChars text a) (rest : List Char) :
    squeeze .inside (a ++ rest) = a ++ squeeze .inside rest := by
  induction h with
  | nil => rfl
  | cons hc _ ih => rw [List.append_assoc, hc.squeeze_inside, ih, List.append_assoc]

/-- A string is left as it is. -/
theorem SpellsText.squeezes {s : String} (h : SpellsText s a) : Squeezes a a := by
  cases h with
  | @quoted body hbody =>
    intro rest
    have hopen : ∀ cs, squeeze .outside ('"' :: cs) = '"' :: squeeze .inside cs := fun _ => rfl
    have hclose : ∀ cs, squeeze .inside ('"' :: cs) = '"' :: squeeze .outside cs := fun _ => rfl
    simp only [List.cons_append, List.append_assoc, List.nil_append, hopen, hbody.squeeze_inside, hclose]

/-- Digits are left as they are. -/
theorem squeezes_digits (h : ∀ c ∈ a, c.isDigit = true) : Squeezes a a := by
  refine squeezes_chars fun c hc => ?_
  have hdigit := h c hc
  constructor
  · rw [Bool.eq_false_iff]
    intro hspace
    simp only [Reading.isSpace, Bool.or_eq_true, decide_eq_true_eq] at hspace
    rcases hspace with ((rfl | rfl) | rfl) | rfl <;> cases hdigit
  · rintro rfl
    cases hdigit

theorem Whole.squeezes (h : Whole a) : Squeezes a a := by
  cases h with
  | zero => exact squeezes_char rfl (by decide)
  | digits hc _ hcs => exact squeezes_digits (List.forall_mem_cons.mpr ⟨hc, hcs⟩)

theorem Fraction.squeezes (h : Fraction a) : Squeezes a a := by
  cases h with
  | absent => exact squeezes_nil
  | present hdigits =>
    have hpoint : Squeezes ['.'] ['.'] := squeezes_char rfl (by decide)
    exact hpoint.append (squeezes_digits hdigits.2)

/-- An exponent is left as it is. -/
theorem Exponent.squeezes (h : Exponent a) : Squeezes a a := by
  cases h with
  | absent => exact squeezes_nil
  | @present e sgn cs he hsign hdigits =>
    have hletter : Squeezes [e] [e] := by
      rcases he with rfl | rfl <;> exact squeezes_char rfl (by decide)
    have hsgn : Squeezes sgn sgn := by
      rcases hsign with rfl | rfl | rfl
      · exact squeezes_nil
      · exact squeezes_char rfl (by decide)
      · exact squeezes_char rfl (by decide)
    exact hletter.append (hsgn.append (squeezes_digits hdigits.2))

/-- A number is left as it is: there is no space in it. -/
theorem Literal.squeezes (h : Literal a) : Squeezes a a := by
  cases h with
  | @parts sgn whole frac exp hsign hwhole hfrac hexp =>
    have hsgn : Squeezes sgn sgn := by
      rcases hsign with rfl | rfl
      · exact squeezes_nil
      · exact squeezes_char rfl (by decide)
    exact hsgn.append (hwhole.squeezes.append (hfrac.squeezes.append hexp.squeezes))

/-! ### Layouts -/

variable {layout : Layout}

/-- What one layout puts between the parts is left as what the compact one puts there, which is nothing. -/
theorem squeezes_lineBreak (layout : Layout) (depth depth' : Nat) :
    Squeezes (layout.lineBreak depth).toList (Layout.compact.lineBreak depth').toList :=
  squeezes_spaces (spaces_lineBreak layout depth)

/-- Of a colon in a layout the mark is left. -/
theorem squeezes_colon (layout : Layout) : Squeezes layout.colon.toList Layout.compact.colon.toList := by
  obtain ⟨blank, hcolon, hblank⟩ := exists_colon layout
  have hmark : Squeezes [':'] [':'] := squeezes_char rfl (by decide)
  rw [hcolon]
  exact hmark.append (squeezes_spaces hblank)

/-- What is left of the value in a layout is the value without space. -/
def SqueezesAnywhere (layout : Layout) (v : Value) : Prop :=
  ∀ depth depth', Squeezes (chars (v.pieces layout depth)) (chars (v.pieces .compact depth'))

/-- Of elements in a layout the elements without space are left. -/
theorem squeezes_elementPieces {vs : List Value} (h : ∀ v ∈ vs, SqueezesAnywhere layout v) (depth depth' : Nat) :
    Squeezes (chars (elementPieces layout depth vs)) (chars (elementPieces .compact depth' vs)) := by
  induction vs with
  | nil => exact squeezes_nil
  | cons v vs ih =>
    obtain ⟨hv, hvs⟩ := List.forall_mem_cons.mp h
    have hcomma : Squeezes [','] [','] := squeezes_char rfl (by decide)
    have hvalue := (squeezes_lineBreak layout depth depth').append ((hv depth depth').append (ih hvs))
    simpa [elementPieces] using hcomma.append hvalue

/-- Of members in a layout the members without space are left. -/
theorem squeezes_memberPieces {ms : List (String × Value)} (h : ∀ m ∈ ms, SqueezesAnywhere layout m.2) (depth depth' : Nat) :
    Squeezes (chars (memberPieces layout depth ms)) (chars (memberPieces .compact depth' ms)) := by
  induction ms with
  | nil => exact squeezes_nil
  | cons m ms ih =>
    obtain ⟨name, v⟩ := m
    obtain ⟨hv, hms⟩ := List.forall_mem_cons.mp h
    have hcomma : Squeezes [','] [','] := squeezes_char rfl (by decide)
    have hvalue := (squeezes_colon layout).append ((hv depth depth').append (ih hms))
    have hmember := (squeezes_lineBreak layout depth depth').append ((spellsText_stringText name).squeezes.append hvalue)
    simpa [memberPieces] using hcomma.append hmember

/-- A word without space and quotes is left as it is. -/
theorem squeezes_word (word : String) (h : word.toList.all (fun c => !Reading.isSpace c && c != '"') = true) :
    Squeezes word.toList word.toList := by
  refine squeezes_chars fun c hc => ?_
  have hchar := List.all_eq_true.mp h c hc
  rw [Bool.and_eq_true, Bool.not_eq_true', bne_iff_ne] at hchar
  exact hchar

/-- Of a value in a layout the value without space is left. -/
theorem Value.Proper.squeezes_pieces {v : Value} (h : v.Proper) (layout : Layout) : SqueezesAnywhere layout v := by
  induction h with
  | null => exact fun _ _ => squeezes_word "null" (by decide)
  | bool b =>
    intro depth depth'
    cases b with
    | true => exact squeezes_word "true" (by decide)
    | false => exact squeezes_word "false" (by decide)
  | number h => exact fun _ _ => by simpa [Value.pieces] using h.squeezes
  | text s => exact fun _ _ => by simpa [Value.pieces] using (spellsText_stringText s).squeezes
  | @array vs _ ih =>
    intro depth depth'
    cases vs with
    | nil => exact squeezes_word "[]" (by decide)
    | cons v vs =>
      obtain ⟨hv, hvs⟩ := List.forall_mem_cons.mp ih
      have hopen : Squeezes ['['] ['['] := squeezes_char rfl (by decide)
      have hclose : Squeezes [']'] [']'] := squeezes_char rfl (by decide)
      have hlast := (squeezes_lineBreak layout depth depth').append hclose
      have hothers := (squeezes_elementPieces hvs (depth + 1) (depth' + 1)).append hlast
      have hfirst := (squeezes_lineBreak layout (depth + 1) (depth' + 1)).append ((hv (depth + 1) (depth' + 1)).append hothers)
      simpa [Value.pieces] using hopen.append hfirst
  | @object ms _ ih =>
    intro depth depth'
    cases ms with
    | nil => exact squeezes_word "\x7b\x7d" (by decide)
    | cons m ms =>
      obtain ⟨name, v⟩ := m
      obtain ⟨hv, hms⟩ := List.forall_mem_cons.mp ih
      have hopen : Squeezes ['\x7b'] ['\x7b'] := squeezes_char rfl (by decide)
      have hclose : Squeezes ['\x7d'] ['\x7d'] := squeezes_char rfl (by decide)
      have hlast := (squeezes_lineBreak layout depth depth').append hclose
      have hothers := (squeezes_memberPieces hms (depth + 1) (depth' + 1)).append hlast
      have hvalue := (squeezes_colon layout).append ((hv (depth + 1) (depth' + 1)).append hothers)
      have hmember := (spellsText_stringText name).squeezes.append hvalue
      have hfirst := (squeezes_lineBreak layout (depth + 1) (depth' + 1)).append hmember
      simpa [Value.pieces] using hopen.append hfirst

/-- The layouts of a value differ in nothing but the space outside of strings, of which the compact one has none. -/
theorem Value.Proper.squeezed_write {v : Value} (h : v.Proper) (layout : Layout) :
    squeezed (v.write layout) = v.write .compact := by
  have hpieces := h.squeezes_pieces layout 0 0 []
  simp only [List.append_nil, squeeze] at hpieces
  rw [squeezed, Value.write, toList_joined, hpieces]
  rfl

end squeezes

end Stragglers.Json
