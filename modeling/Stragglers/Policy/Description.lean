import Stragglers.Policy.Basic
import Stragglers.Text.Quoted

/-!
# Policies described

The text of a policy for people who look into a check: its fields with their names, on one line or each on a line of its own.
-/

namespace Stragglers

/-- The texts with a comma and a space between each two. -/
def commaSeparated (parts : List String) : String :=
  ", ".intercalate parts

namespace Policy

/-- The labels of the rules, between double quotes. -/
def quotedLabels (p : Policy) : List String :=
  p.rules.map fun r => Text.quoted r.label

/-- The fields behind the labels, each with its name. -/
def fieldTexts (p : Policy) : List String := [
  "max_retries: " ++ toString p.maxRetries.toNat,
  "max_sleep: " ++ p.maxSleep.text,
  "cleanup: " ++ toString p.cleanup.isSome,
  "pretty: " ++ toString p.pretty
]

/-- The policy on one line. -/
def description (p : Policy) : String :=
  "Config \x7b " ++ commaSeparated (("filters: [" ++ commaSeparated p.quotedLabels ++ "]") :: p.fieldTexts) ++ " \x7d"

/-- The labels, each on a line of its own; nothing breaks the line of an empty list. -/
def labelLines (p : Policy) : String :=
  match p.quotedLabels with
  | [] => "[]"
  | labels => "[\n" ++ String.join (labels.map fun l => "        " ++ l ++ ",\n") ++ "    ]"

/-- The policy with one field or label in a line. -/
def longDescription (p : Policy) : String :=
  "Config \x7b\n" ++ String.join ((("filters: " ++ p.labelLines) :: p.fieldTexts).map fun f => "    " ++ f ++ ",\n") ++ "\x7d"

/-- The rules of the policy on one line. -/
def rulesDescription (p : Policy) : String :=
  "FilterChain \x7b filters: [" ++ commaSeparated (p.quotedLabels.map fun l => "Filter(" ++ l ++ ")") ++ "] \x7d"

end Policy

end Stragglers
