/-!
# Patterns

A pattern says character by character what a text looks like. In its written form most characters stand for themselves; a
backslash makes the mark behind it stand for itself, a point stands for any character that does not end the line, and a plus
sign says that there may be more than one of the character before it. The other marks have meanings that no pattern here needs,
and a pattern with one of them is not read.
-/

namespace Stragglers

/-- What a pattern says of one character of a text. -/
inductive CharPattern where
  /-- It is this one. -/
  | exactly (c : Char)
  /-- It does not end the line. -/
  | inLine
deriving DecidableEq, Repr

/-- The character is as it should be. -/
def CharPattern.admits : CharPattern → Char → Bool
  | .exactly x, c => x == c
  | .inLine, c => c != '\n'

/-- One character or, if it is repeated, one or more of the same kind. -/
structure PatternPart where
  char : CharPattern
  repeated : Bool
deriving DecidableEq, Repr

/-- The parts of a text, one behind the other. -/
structure Pattern where
  parts : List PatternPart
deriving DecidableEq, Repr

namespace Pattern

/-! ## Written patterns -/

/-- The characters that do not stand for themselves in a written pattern. -/
def marks : List Char :=
  ['\\', '.', '+', '*', '?', '(', ')', '|', '[', ']', '\x7b', '\x7d', '^', '$', '#', '&', '-', '~']

/-- The character written so that it stands for itself. -/
def escapedChar (c : Char) : List Char :=
  if marks.contains c then ['\\', c] else [c]

/-- The text written as a pattern in which each character stands for itself. -/
def escaped (text : String) : String :=
  String.ofList (text.toList.flatMap escapedChar)

/-- A written pattern as far as it is read: the parts so far, the latest first, and whether the next character stands for
itself because of a backslash before it. -/
structure Reading where
  parts : List PatternPart
  escaping : Bool
deriving DecidableEq, Repr

namespace Reading

/-- The next part is one such character. -/
def push (r : Reading) (char : CharPattern) : Reading :=
  ⟨⟨char, false⟩ :: r.parts, false⟩

/-- There may be more than one of the last character. -/
def repeatLast? (r : Reading) : Option Reading :=
  match r.parts with
  | ⟨char, false⟩ :: parts => some ⟨⟨char, true⟩ :: parts, false⟩
  | _ => none

/-- The reading with one more character. -/
def step? (r : Reading) (c : Char) : Option Reading :=
  if marks.contains c then
    if r.escaping then some (r.push (.exactly c))
    else match c with
      | '\\' => some ⟨r.parts, true⟩
      | '.' => some (r.push .inLine)
      | '+' => r.repeatLast?
      | _ => none
  else if r.escaping then none
  else some (r.push (.exactly c))

/-- The pattern that has been read, unless a backslash stands last. -/
def finish? (r : Reading) : Option Pattern :=
  if r.escaping then none else some ⟨r.parts.reverse⟩

end Reading

/-- The pattern of this written form. -/
def read? (written : String) : Option Pattern := do
  (← written.toList.foldlM Reading.step? ⟨[], false⟩).finish?

/-! ## Search -/

/-- The text begins with the parts. -/
def begins : List PatternPart → List Char → Bool
  | [], _ => true
  | _ :: _, [] => false
  | part :: parts, c :: cs =>
    part.char.admits c && if part.repeated then begins parts cs || begins (part :: parts) cs else begins parts cs

/-- The parts stand at one of the first `places` of the text. -/
def standsWithin (parts : List PatternPart) : (places : Nat) → List Char → Bool
  | 0, _ => false
  | _ + 1, [] => begins parts []
  | n + 1, c :: cs => begins parts (c :: cs) || standsWithin parts n cs

/-- The pattern stands somewhere in the text; there is no need to look where too little of the text is left. -/
def standsIn (p : Pattern) (cs : List Char) : Bool :=
  standsWithin p.parts (cs.length + 1 - p.parts.length) cs

end Pattern

end Stragglers
