import Stragglers.Json.Reading

/-!
# The grammar of JSON

What a text spells, said without reading it: `Spells` relates a value, or a part of one, to each text that stands for it. A value
has many spellings: spaces may stand around every part of it, and a character of a string may be escaped in more than one way.
-/

namespace Stragglers.Json

/-- Nothing but space. -/
def Spaces (cs : List Char) : Prop :=
  ∀ c ∈ cs, Reading.isSpace c = true

/-! ## Numbers -/

/-- One digit or more. -/
def Digits (cs : List Char) : Prop :=
  cs ≠ [] ∧ ∀ c ∈ cs, c.isDigit = true

/-- The digits before the point: a zero, or a number that does not begin with one. -/
inductive Whole : List Char → Prop where
  | zero : Whole ['0']
  | digits {c : Char} {cs : List Char} (hc : c.isDigit = true) (hzero : c ≠ '0') (hcs : ∀ d ∈ cs, d.isDigit = true) :
      Whole (c :: cs)

/-- The point and the digits behind it, or neither. -/
inductive Fraction : List Char → Prop where
  | absent : Fraction []
  | present {cs : List Char} (h : Digits cs) : Fraction ('.' :: cs)

/-- The power of ten, or nothing. -/
inductive Exponent : List Char → Prop where
  | absent : Exponent []
  | present {e : Char} {sign cs : List Char} (he : e = 'e' ∨ e = 'E') (hsign : sign = [] ∨ sign = ['+'] ∨ sign = ['-'])
      (h : Digits cs) : Exponent (e :: (sign ++ cs))

/-- The literal of a number. -/
inductive Literal : List Char → Prop where
  | parts {sign whole fraction exponent : List Char} (hsign : sign = [] ∨ sign = ['-']) (hwhole : Whole whole)
      (hfraction : Fraction fraction) (hexponent : Exponent exponent) : Literal (sign ++ (whole ++ (fraction ++ exponent)))

/-! ## Strings -/

/-- What four hexadecimal digits stand for. -/
def codeUnit? : List Char → Option Nat
  | [a, b, c, d] => do
    return 16 * (16 * (16 * (← hexValue? a) + (← hexValue? b)) + (← hexValue? c)) + (← hexValue? d)
  | _ => none

/-- A code unit is that of four digits. -/
theorem exists_of_codeUnit? {cs : List Char} {unit : Nat} (h : codeUnit? cs = some unit) :
    ∃ a b c d va vb vc vd, cs = [a, b, c, d] ∧ hexValue? a = some va ∧ hexValue? b = some vb ∧ hexValue? c = some vc ∧
      hexValue? d = some vd ∧ unit = 16 * (16 * (16 * va + vb) + vc) + vd := by
  rw [codeUnit?.eq_def] at h
  split at h
  · simp only [Option.bind_eq_bind, Option.bind_eq_some_iff, Option.pure_def, Option.some.injEq] at h
    obtain ⟨va, ha, vb, hb, vc, hc, vd, hd, rfl⟩ := h
    exact ⟨_, _, _, _, va, vb, vc, vd, rfl, ha, hb, hc, hd, rfl⟩
  · cases h

/-- How a character may stand in a string: as itself, behind a backslash, by its number, or by the two halves of its surrogate
pair. -/
inductive SpellsChar (c : Char) : List Char → Prop where
  | plain (hquote : c ≠ '"') (hbackslash : c ≠ '\\') (hcontrol : 0x20 ≤ c.toNat) : SpellsChar c [c]
  | escape {letter : Char} (h : escaped? letter = some c) : SpellsChar c ['\\', letter]
  | unit {digits : List Char} (h : codeUnit? digits = some c.toNat) : SpellsChar c ('\\' :: 'u' :: digits)
  | pair {leading trailing : List Char} {high low : Nat} (hleading : codeUnit? leading = some high)
      (htrailing : codeUnit? trailing = some low) (hhigh : 0xd800 ≤ high ∧ high < 0xdc00)
      (hlow : 0xdc00 ≤ low ∧ low < 0xe000) (hc : c.toNat = 0x10000 + (high - 0xd800) * 0x400 + (low - 0xdc00)) :
      SpellsChar c ('\\' :: 'u' :: (leading ++ '\\' :: 'u' :: trailing))

/-- How characters may stand one behind the other. -/
inductive SpellsChars : List Char → List Char → Prop where
  | nil : SpellsChars [] []
  | cons {c : Char} {cs a b : List Char} (hc : SpellsChar c a) (hcs : SpellsChars cs b) : SpellsChars (c :: cs) (a ++ b)

/-- How a text may stand as a string. -/
inductive SpellsText (s : String) : List Char → Prop where
  | quoted {body : List Char} (h : SpellsChars s.toList body) : SpellsText s ('"' :: (body ++ ['"']))

/-! ## Values -/

/-- What a piece of a text can stand for. -/
inductive Part where
  /-- A value. -/
  | value (v : Value)
  /-- A value with space around it. -/
  | spaced (v : Value)
  /-- The elements of an array, at least one. -/
  | elements (vs : List Value)
  /-- A name and the value that it is given. -/
  | member (name : String) (v : Value)
  /-- The members of an object, at least one. -/
  | members (ms : List (String × Value))

/-- The text stands for the part. -/
inductive Spells : Part → List Char → Prop where
  | null : Spells (.value .null) ['n', 'u', 'l', 'l']
  | bool (b : Bool) : Spells (.value (.bool b)) (if b then ['t', 'r', 'u', 'e'] else ['f', 'a', 'l', 's', 'e'])
  | number {literal : String} (h : Literal literal.toList) : Spells (.value (.number literal)) literal.toList
  | text {s : String} {cs : List Char} (h : SpellsText s cs) : Spells (.value (.text s)) cs
  | emptyArray {blank : List Char} (h : Spaces blank) : Spells (.value (.array [])) ('[' :: (blank ++ [']']))
  | array {vs : List Value} {cs : List Char} (h : Spells (.elements vs) cs) :
      Spells (.value (.array vs)) ('[' :: (cs ++ [']']))
  | emptyObject {blank : List Char} (h : Spaces blank) : Spells (.value (.object [])) ('\x7b' :: (blank ++ ['\x7d']))
  | object {ms : List (String × Value)} {cs : List Char} (h : Spells (.members ms) cs) :
      Spells (.value (.object ms)) ('\x7b' :: (cs ++ ['\x7d']))
  | spaced {v : Value} {before cs after : List Char} (hbefore : Spaces before) (h : Spells (.value v) cs)
      (hafter : Spaces after) : Spells (.spaced v) (before ++ (cs ++ after))
  | lastElement {v : Value} {cs : List Char} (h : Spells (.spaced v) cs) : Spells (.elements [v]) cs
  | nextElement {v : Value} {vs : List Value} {cs rest : List Char} (h : Spells (.spaced v) cs)
      (hrest : Spells (.elements vs) rest) : Spells (.elements (v :: vs)) (cs ++ ',' :: rest)
  | member {name : String} {v : Value} {before key after cs : List Char} (hbefore : Spaces before)
      (hkey : SpellsText name key) (hafter : Spaces after) (h : Spells (.spaced v) cs) :
      Spells (.member name v) (before ++ (key ++ (after ++ ':' :: cs)))
  | lastMember {name : String} {v : Value} {cs : List Char} (h : Spells (.member name v) cs) :
      Spells (.members [(name, v)]) cs
  | nextMember {name : String} {v : Value} {ms : List (String × Value)} {cs rest : List Char}
      (h : Spells (.member name v) cs) (hrest : Spells (.members ms) rest) :
      Spells (.members ((name, v) :: ms)) (cs ++ ',' :: rest)

end Stragglers.Json
