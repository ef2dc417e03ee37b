import Stragglers.Notice
import Stragglers.Rule

/-!
# Rules made from a name

The rules that a caller asks for by the name of a function, a package or a type. Names are taken as they are: an empty one is
accepted and matches nothing.
-/

namespace Stragglers

/-- Under what a function lies in its path: all kinds test alike and differ in their label. -/
inductive Nesting where
  | package | struct | includePackage
deriving DecidableEq, Repr

namespace Nesting

/-- The words for the kind in a label. -/
def name : Nesting → String
  | .package => "package"
  | .struct => "struct"
  | .includePackage => "include package"

/-- The label of the rule for a qualifier. -/
def label (kind : Nesting) (qualifier : String) : String :=
  kind.name ++ " " ++ qualifier

end Nesting

namespace Rule

/-- The longest qualifier, in bytes of UTF-8, that can be searched for. -/
def maxQualifierSize : Nat := 327641

/-- The function on top of the chain has this name. -/
def topFunction (function : String) : Rule :=
  let label := "top function " ++ function
  if function = "" then inert label else ⟨label, fun t => t.topFunction == function⟩

/-- Some function of the chain has this name. -/
def anyFunction (function : String) : Rule :=
  let label := "any function " ++ function
  if function = "" then inert label else ⟨label, fun t => t.hasFunction function⟩

/-- The words stand in the text of some frame. -/
def anyEntry (words : String) : Rule :=
  let label := "any entry " ++ words
  if words = "" then inert label else ⟨label, fun t => t.hasEntry words⟩

/-- What separates the parts of a path of names. -/
def pathSeparator : String := "::"

/-- The written pattern of a function under the qualifier: the qualifier and the separator as they are, and a name. -/
def nestedPattern (qualifier : String) : String :=
  Pattern.escaped qualifier ++ Pattern.escaped pathSeparator ++ ".+"

/-- The pattern of a function under the qualifier; none if it is too long. -/
def nestedPattern? (qualifier : String) : Option Pattern :=
  if maxQualifierSize < qualifier.utf8ByteSize then none else Pattern.read? (nestedPattern qualifier)

/-- Some function of the chain lies under the qualifier; a qualifier whose pattern is too long matches nothing. -/
def nested (kind : Nesting) (qualifier : String) : Rule :=
  let label := kind.label qualifier
  if qualifier = "" then inert label
  else match nestedPattern? qualifier with
    | some pattern => ⟨label, fun t => t.hasPattern pattern⟩
    | none => inert label

/-- What is told when the rule for a qualifier is made: a warning if its pattern is too long. -/
def nestedNotices (kind : Nesting) (qualifier : String) : List Notice :=
  if qualifier = "" ∨ (nestedPattern? qualifier).isSome then [] else [.tooLong (kind.label qualifier)]

end Rule

end Stragglers
