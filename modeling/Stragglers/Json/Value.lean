import Stragglers.Text.Decimal

/-!
# JSON values

A JSON text as a value. A number keeps its literal, so that no precision is lost, and an object keeps its members in their
order, repeated names included. Main definition: `Value.pieces`, the text in one of two layouts, in the pieces that a writer
hands on one after the other.
-/

namespace Stragglers.Json

/-- What a JSON text stands for. -/
inductive Value where
  | null
  | bool (b : Bool)
  | number (literal : String)
  | text (s : String)
  | array (elements : List Value)
  | object (members : List (String × Value))
  /-- A string in which half of a surrogate pair stands alone, or an object with such a name: it has a place, and no text. -/
  | unreadable
deriving Repr

namespace Value

/-- The number of a natural number. -/
def ofNat (n : Nat) : Value :=
  .number (toString n)

/-- A text, and null where there is none. -/
def ofText? : Option String → Value
  | none => .null
  | some s => .text s

/-- The text, of a value that is one. -/
def text? : Value → Option String
  | .text s => some s
  | _ => none

/-- The word of 64 bits whose digits the value is, a number without sign, fraction and exponent. -/
def word? : Value → Option UInt64
  | .number literal => Text.digits? literal.toList
  | _ => none

/-- The elements, of a value that is an array. -/
def elements? : Value → Option (List Value)
  | .array vs => some vs
  | _ => none

end Value

/-! ## Strings -/

/-- A digit of a hexadecimal escape. -/
def hexDigit (n : Nat) : Char :=
  Nat.digitChar (n % 16)

/-- How a character stands in a JSON string: the quote, the backslash and the controls are escaped. -/
def escapedChar (c : Char) : List Char :=
  match c with
  | '"' => ['\\', '"']
  | '\\' => ['\\', '\\']
  | '\x08' => ['\\', 'b']
  | '\t' => ['\\', 't']
  | '\n' => ['\\', 'n']
  | '\x0c' => ['\\', 'f']
  | '\r' => ['\\', 'r']
  | c => if c.toNat < 0x20 then ['\\', 'u', '0', '0', hexDigit (c.toNat / 16), hexDigit c.toNat] else [c]

/-- A text as a JSON string. -/
def stringText (s : String) : String :=
  String.ofList ('"' :: s.toList.flatMap escapedChar ++ ['"'])

/-! ## Layout -/

/-- How the parts of a value are set: without space, or one below the other, two blanks further in at each level. -/
inductive Layout where
  | compact
  | indented
deriving DecidableEq, Repr

namespace Layout

/-- What stands before a part at this depth. -/
def lineBreak : Layout → Nat → String
  | .compact, _ => ""
  | .indented, depth => String.ofList ('\n' :: List.replicate (2 * depth) ' ')

/-- What stands between the name of a member and its value. -/
def colon : Layout → String
  | .compact => ":"
  | .indented => ": "

end Layout

mutual

/-- The pieces of the text of a value that stands at this depth. -/
def Value.pieces (layout : Layout) (depth : Nat) : Value → List String
  | .null => ["null"]
  | .bool b => [if b then "true" else "false"]
  | .number literal => [literal]
  | .text s => [stringText s]
  | .array [] => ["[", "]"]
  | .array (v :: vs) =>
    "[" :: layout.lineBreak (depth + 1) :: (v.pieces layout (depth + 1) ++
      elementPieces layout (depth + 1) vs ++ [layout.lineBreak depth, "]"])
  | .object [] => ["\x7b", "\x7d"]
  | .object ((name, v) :: members) =>
    "\x7b" :: layout.lineBreak (depth + 1) :: stringText name :: layout.colon :: (v.pieces layout (depth + 1) ++
      memberPieces layout (depth + 1) members ++ [layout.lineBreak depth, "\x7d"])
  | .unreadable => ["null"]

/-- The pieces of the elements after the first. -/
def elementPieces (layout : Layout) (depth : Nat) : List Value → List String
  | [] => []
  | v :: vs => "," :: layout.lineBreak depth :: (v.pieces layout depth ++ elementPieces layout depth vs)

/-- The pieces of the members after the first. -/
def memberPieces (layout : Layout) (depth : Nat) : List (String × Value) → List String
  | [] => []
  | (name, v) :: members =>
    "," :: layout.lineBreak depth :: stringText name :: layout.colon :: (v.pieces layout depth ++
      memberPieces layout depth members)

end

/-- The text that the pieces make together. -/
def joined (pieces : List String) : String :=
  String.ofList (pieces.flatMap String.toList)

/-- The text of a value in a layout. -/
def Value.write (layout : Layout) (v : Value) : String :=
  joined (v.pieces layout 0)

end Stragglers.Json
