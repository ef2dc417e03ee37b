import Stragglers.Json.Value

/-!
# Reading JSON

A JSON text is read from its first character to its last by one step per character. What a step needs to know is the stack of
containers whose next value is being read, and what the text may go on with; so reading takes no more room for a deep text
than for a wide one, and a text that follows another is read from where the first one ended (`run_append`).
-/

namespace Stragglers.Json

/-- The name of a member, unless half of a surrogate pair stands alone in it. -/
abbrev Name := Option String

/-- The members of an object read so far, the latest first. -/
abbrev Members := List (Name × Value)

/-- A container one of whose values is being read: what it holds before that value, the latest first. -/
inductive Enclosing where
  | array (before : List Value)
  | object (before : Members) (name : Name)
deriving Repr

/-- Where in a string the text stands. -/
inductive StringPhase where
  | plain
  | escape
  /-- In the digits of a code unit: how many are missing, and what the others stand for. -/
  | unit (missing : Nat) (value : Nat)
deriving DecidableEq, Repr

/-- Where in a number the text stands. -/
inductive NumberPhase where
  | sign
  | zero
  | whole
  | point
  | fraction
  | exponent
  | exponentSign
  | exponentDigits
deriving DecidableEq, Repr

/-- What the text may go on with. -/
inductive Expected where
  /-- A value. -/
  | value
  /-- The first value of an array, or its end. -/
  | firstElement
  /-- Another value of an array, or its end. -/
  | afterElement (before : List Value)
  /-- The first name of an object, or its end. -/
  | firstName
  /-- Another name of an object. -/
  | nextName (before : Members)
  /-- The rest of a name, whose code units so far are given with the latest first. -/
  | name (before : Members) (units : List Nat) (phase : StringPhase)
  /-- The colon behind a name. -/
  | colon (before : Members) (name : Name)
  /-- Another member of an object, or its end. -/
  | afterMember (before : Members)
  /-- The rest of a string that is a value. -/
  | string (units : List Nat) (phase : StringPhase)
  /-- The rest of a number, whose characters so far are given with the latest first. -/
  | number (literal : List Char) (phase : NumberPhase)
  /-- The rest of a word that stands for a value. -/
  | word (rest : List Char) (v : Value)
  /-- Nothing: the value is complete. -/
  | nothing (v : Value)
deriving Repr

/-- A text that has been read up to some character. -/
structure Reading where
  stack : List Enclosing
  expected : Expected
deriving Repr

/-! ## Strings -/

/-- The characters of code points and code units, given with the latest first, before the characters that follow them; two
halves of a surrogate pair make one character. -/
def ofUnits? : List Nat → List Char → Option (List Char)
  | [], cs => some cs
  | u :: units, cs =>
    if u.isValidChar then ofUnits? units (Char.ofNat u :: cs)
    else
      match units with
      | [] => none
      | lead :: units =>
        if 0xd800 ≤ lead ∧ lead < 0xdc00 ∧ 0xdc00 ≤ u ∧ u < 0xe000 then
          ofUnits? units (Char.ofNat (0x10000 + (lead - 0xd800) * 0x400 + (u - 0xdc00)) :: cs)
        else none

/-- The text of the code units of a string, given with the latest first. -/
def textOf? (units : List Nat) : Name :=
  (ofUnits? units []).map String.ofList

/-- What a hexadecimal digit stands for. -/
def hexValue? (c : Char) : Option Nat :=
  if '0' ≤ c ∧ c ≤ '9' then some (c.toNat - '0'.toNat)
  else if 'a' ≤ c ∧ c ≤ 'f' then some (c.toNat - 'a'.toNat + 10)
  else if 'A' ≤ c ∧ c ≤ 'F' then some (c.toNat - 'A'.toNat + 10)
  else none

/-- The character that a backslash and this letter stand for. -/
def escaped? : Char → Option Char
  | '"' => some '"'
  | '\\' => some '\\'
  | '/' => some '/'
  | 'b' => some '\x08'
  | 'f' => some '\x0c'
  | 'n' => some '\n'
  | 'r' => some '\r'
  | 't' => some '\t'
  | _ => none

/-- What a character does to a string: it ends it, or it leads on to more units and another phase. -/
inductive StringStep where
  | close
  | next (units : List Nat) (phase : StringPhase)

/-- One character of a string. -/
def stringStep? (units : List Nat) : StringPhase → Char → Option StringStep
  | .plain, c =>
    if c = '"' then some .close
    else if c = '\\' then some (.next units .escape)
    else if c.toNat < 0x20 then none
    else some (.next (c.toNat :: units) .plain)
  | .escape, c =>
    if c = 'u' then some (.next units (.unit 4 0))
    else (escaped? c).map fun e => .next (e.toNat :: units) .plain
  | .unit missing value, c =>
    (hexValue? c).map fun d =>
      if missing ≤ 1 then .next ((16 * value + d) :: units) .plain else .next units (.unit (missing - 1) (16 * value + d))

/-! ## Numbers -/

namespace NumberPhase

/-- A number may end here. -/
def isComplete : NumberPhase → Bool
  | zero | whole | fraction | exponentDigits => true
  | sign | point | exponent | exponentSign => false

/-- Where the number stands behind one more character, if it goes on with it. -/
def next? (phase : NumberPhase) (c : Char) : Option NumberPhase :=
  match phase with
  | sign => if c = '0' then some zero else if c.isDigit then some whole else none
  | zero => if c = '.' then some point else if c = 'e' ∨ c = 'E' then some exponent else none
  | whole =>
    if c.isDigit then some whole else if c = '.' then some point else if c = 'e' ∨ c = 'E' then some exponent else none
  | point => if c.isDigit then some fraction else none
  | fraction => if c.isDigit then some fraction else if c = 'e' ∨ c = 'E' then some exponent else none
  | exponent =>
    if c.isDigit then some exponentDigits else if c = '+' ∨ c = '-' then some exponentSign else none
  | exponentSign | exponentDigits => if c.isDigit then some exponentDigits else none

end NumberPhase

/-- The value of a number whose characters are given with the latest first. -/
def numberOf (literal : List Char) : Value :=
  .number (String.ofList literal.reverse)

/-! ## Values -/

namespace Reading

/-- Nothing has been read yet. -/
def start : Reading :=
  ⟨[], .value⟩

/-- A value ends: it is added to the container that it stands in. -/
def finish (v : Value) : List Enclosing → Reading
  | [] => ⟨[], .nothing v⟩
  | .array before :: stack => ⟨stack, .afterElement (v :: before)⟩
  | .object before name :: stack => ⟨stack, .afterMember ((name, v) :: before)⟩

/-- The object of the members read, if each of them has a name. -/
def objectOf (members : Members) : Value :=
  match members.reverse.mapM fun m => m.1.map (·, m.2) with
  | some named => .object named
  | none => .unreadable

/-- Space between the parts of a text. -/
def isSpace (c : Char) : Bool :=
  c = ' ' || c = '\n' || c = '\t' || c = '\r'

/-- A value begins with the character. -/
def begin? (stack : List Enclosing) (c : Char) : Option Reading :=
  match c with
  | '\x7b' => some ⟨stack, .firstName⟩
  | '[' => some ⟨stack, .firstElement⟩
  | '"' => some ⟨stack, .string [] .plain⟩
  | 't' => some ⟨stack, .word ['r', 'u', 'e'] (.bool true)⟩
  | 'f' => some ⟨stack, .word ['a', 'l', 's', 'e'] (.bool false)⟩
  | 'n' => some ⟨stack, .word ['u', 'l', 'l'] .null⟩
  | '-' => some ⟨stack, .number ['-'] .sign⟩
  | '0' => some ⟨stack, .number ['0'] .zero⟩
  | c => if c.isDigit then some ⟨stack, .number [c] .whole⟩ else none

/-- One character between two parts of a text, when it is not a space. -/
def mark? (r : Reading) (c : Char) : Option Reading :=
  match r.expected with
  | .value => begin? r.stack c
  | .firstElement => if c = ']' then some (finish (.array []) r.stack) else begin? (.array [] :: r.stack) c
  | .afterElement before =>
    if c = ']' then some (finish (.array before.reverse) r.stack)
    else if c = ',' then some ⟨.array before :: r.stack, .value⟩
    else none
  | .firstName =>
    if c = '\x7d' then some (finish (.object []) r.stack)
    else if c = '"' then some ⟨r.stack, .name [] [] .plain⟩
    else none
  | .nextName before => if c = '"' then some ⟨r.stack, .name before [] .plain⟩ else none
  | .colon before name => if c = ':' then some ⟨.object before name :: r.stack, .value⟩ else none
  | .afterMember before =>
    if c = '\x7d' then some (finish (objectOf before) r.stack)
    else if c = ',' then some ⟨r.stack, .nextName before⟩
    else none
  | _ => none

/-- One character between two parts of a text. -/
def between? (r : Reading) (c : Char) : Option Reading :=
  if isSpace c then some r else r.mark? c

/-- One character. A number ends where it cannot go on, so that the character behind it is read as what follows a value. -/
def step? (r : Reading) (c : Char) : Option Reading :=
  match r.expected with
  | .name before units phase =>
    (stringStep? units phase c).map fun
      | .close => ⟨r.stack, .colon before (textOf? units)⟩
      | .next units phase => ⟨r.stack, .name before units phase⟩
  | .string units phase =>
    (stringStep? units phase c).map fun
      | .close => finish (match textOf? units with | some s => .text s | none => .unreadable) r.stack
      | .next units phase => ⟨r.stack, .string units phase⟩
  | .number literal phase =>
    match phase.next? c with
    | some phase => some ⟨r.stack, .number (c :: literal) phase⟩
    | none => if phase.isComplete then (finish (numberOf literal) r.stack).between? c else none
  | .word [] _ => none
  | .word [w] v => if c = w then some (finish v r.stack) else none
  | .word (w :: rest) v => if c = w then some ⟨r.stack, .word rest v⟩ else none
  | _ => r.between? c

/-- One character after the other. -/
def run? (r : Reading) : List Char → Option Reading
  | [] => some r
  | c :: cs =>
    match r.step? c with
    | some next => next.run? cs
    | none => none

/-- The value that has been read, if the text may end here. -/
def value? (r : Reading) : Option Value :=
  match r.expected with
  | .nothing v => some v
  | .number literal phase => if r.stack.isEmpty && phase.isComplete then some (numberOf literal) else none
  | _ => none

/-- A text and one behind it are read like the two in one. -/
theorem run?_append (r : Reading) (a b : List Char) : r.run? (a ++ b) = (r.run? a).bind (·.run? b) := by
  induction a generalizing r with
  | nil => rfl
  | cons c a ih =>
    simp only [List.cons_append, run?]
    cases r.step? c with
    | none => rfl
    | some next => exact ih next

end Reading

/-- The value that a text stands for, with nothing but space around it. -/
def read? (s : String) : Option Value :=
  (Reading.start.run? s.toList).bind Reading.value?

end Stragglers.Json
