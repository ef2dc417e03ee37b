import Stragglers.Backoff
import Stragglers.Benign
import Stragglers.Setting

/-!
# Policies

A policy is folded from a list of settings and does not change afterwards. Its rules are those of the settings, in their
order; of every other kind the last setting counts.
-/

namespace Stragglers

/-- Which tasks a check expects, how often it looks, and how it ends. -/
structure Policy where
  rules : List Rule
  maxRetries : UInt32
  maxSleep : Duration
  cleanup : Option String
  pretty : Bool

namespace Policy

/-- The policy of these rules and of no setting. -/
def ofRules (rules : List Rule) : Policy where
  rules := rules
  maxRetries := Backoff.defaultMaxRetries
  maxSleep := Backoff.defaultMaxSleep
  cleanup := none
  pretty := false

/-- The policy with one more setting. -/
def apply (p : Policy) : Setting → Policy
  | .rule r => { p with rules := p.rules ++ [r] }
  | .maxRetries n => { p with maxRetries := n }
  | .maxSleep d => { p with maxSleep := d }
  | .cleanup name => { p with cleanup := some name }
  | .pretty => { p with pretty := true }

/-- The policy with one setting after the other. -/
def applyAll (p : Policy) (settings : List Setting) : Policy :=
  settings.foldl apply p

/-- The policy of the settings, behind the rules for benign tasks. -/
def withDefaults (settings : List Setting) : Policy :=
  (ofRules Benign.rules).applyAll settings

/-- The policy of the settings alone. -/
def settingsOnly (settings : List Setting) : Policy :=
  (ofRules []).applyAll settings

/-- The task is expected: a rule matches it. -/
def expects (p : Policy) (t : TaskRecord) : Bool :=
  Rule.anyMatch p.rules t

/-- The label of the first rule that matches the task. -/
def firstMatch? (p : Policy) (t : TaskRecord) : Option String :=
  Rule.firstMatch? p.rules t

/-- How often and after what pauses a check looks. -/
def backoff (p : Policy) : Backoff :=
  ⟨p.maxRetries, p.maxSleep⟩

end Policy

end Stragglers
