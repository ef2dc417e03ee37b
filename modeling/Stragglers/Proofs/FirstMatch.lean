import Stragglers.Proofs.Agreement

/-!
# The rule that matches first

Of several rules that match a task the one that was given first gives its label (`firstMatch?_eq_some_iff`), so rules put before
others decide where one of them matches and leave the rest to the others (`firstMatch?_append`). The rules for benign tasks stand
before those of the settings: with them a task is labelled by its kind, and without a kind as by the settings alone
(`kinds_label_before_settings`).
-/

namespace Stragglers

namespace Rule

variable {rules : List Rule} {t : TaskRecord}

/-- The label of the first match is that of the matching rule before which none matches. -/
theorem firstMatch?_eq_some_iff {label : String} :
    firstMatch? rules t = some label ↔
      ∃ i, ∃ h : i < rules.length, rules[i].holds t = true ∧ rules[i].label = label ∧
        ∀ j, (hj : j < i) → rules[j].holds t = false := by
  rw [firstMatch?, Option.map_eq_some_iff]
  constructor
  · rintro ⟨r, hfind, rfl⟩
    obtain ⟨hr, i, h, rfl, hbefore⟩ := List.find?_eq_some_iff_getElem.mp hfind
    exact ⟨i, h, hr, rfl, fun j hj => by simpa using hbefore j hj⟩
  · rintro ⟨i, h, hr, rfl, hbefore⟩
    refine ⟨rules[i], List.find?_eq_some_iff_getElem.mpr ⟨hr, i, h, rfl, fun j hj => ?_⟩, rfl⟩
    rw [hbefore j hj]
    rfl

/-- Rules are asked before those that stand behind them. -/
theorem firstMatch?_append (rules rules' : List Rule) (t : TaskRecord) :
    firstMatch? (rules ++ rules') t = (firstMatch? rules t).or (firstMatch? rules' t) := by
  rw [firstMatch?, List.find?_append, Option.map_or]
  rfl

end Rule

/-- The first of the rules for benign tasks that matches a task is that of its kind. -/
theorem Benign.firstMatch?_rules (t : TaskRecord) : Rule.firstMatch? Benign.rules t = t.benign?.map Benign.label := by
  rw [Rule.firstMatch?, Benign.rules, List.find?_map, Option.map_map]
  rfl

namespace Policy

variable (settings : List Setting) (t : TaskRecord)

/-- Settings alone give their rules in their order. -/
theorem rules_settingsOnly : (settingsOnly settings).rules = settings.filterMap Setting.rule? := by
  rw [settingsOnly, applyAll_eq, ofRules, List.nil_append]

/-- Behind the rules for benign tasks stand those of the settings alone. -/
theorem rules_withDefaults : (withDefaults settings).rules = Benign.rules ++ (settingsOnly settings).rules := by
  rw [rules_settingsOnly, withDefaults, applyAll_eq, ofRules]

/-- With the rules for benign tasks the first match is the kind of the task, and that of the settings for a task of no kind. -/
theorem firstMatch?_withDefaults :
    (withDefaults settings).firstMatch? t = (t.benign?.map Benign.label).or ((settingsOnly settings).firstMatch? t) := by
  rw [firstMatch?, rules_withDefaults, Rule.firstMatch?_append, Benign.firstMatch?_rules, firstMatch?]

/-- A policy expects the tasks that have a first match. -/
theorem expects_eq_isSome_firstMatch? (p : Policy) : p.expects t = (p.firstMatch? t).isSome :=
  (Rule.isSome_firstMatch? p.rules t).symm

/-- A check finds a task unexpected exactly if it is not the one that checks and the policy does not expect it. -/
theorem isUnexpected_iff {p : Policy} {current : Option TaskId} {t : TaskRecord} :
    p.isUnexpected current t = true ↔ current ≠ some t.id ∧ p.expects t = false := by
  rw [isUnexpected_eq, Bool.and_eq_true, bne_iff_ne, Bool.not_eq_true', ne_comm]

/-- With the rules for benign tasks a task of some kind is labelled by the kind, and every other as by the settings alone. The label
is in any list of rules that of the matching rule with the least index. Whether the rules are those of the settings or stand behind
the rules for benign tasks, a task is expected exactly if there is a first match, and a check reports it if it is neither expected
nor the one that checks. So the tasks expected with the rules for benign tasks are those of some kind and those that the settings
expect, and settings without a rule expect none. -/
theorem kinds_label_before_settings :
    (∀ kind, t.benign? = some kind → (withDefaults settings).firstMatch? t = some kind.label) ∧
      (t.benign? = none → (withDefaults settings).firstMatch? t = (settingsOnly settings).firstMatch? t) ∧
      (∀ rules label, Rule.firstMatch? rules t = some label ↔
        ∃ i, ∃ h : i < rules.length, rules[i].holds t = true ∧ rules[i].label = label ∧
          ∀ j, (hj : j < i) → rules[j].holds t = false) ∧
      (∀ build ∈ [withDefaults, settingsOnly],
        (build settings).expects t = ((build settings).firstMatch? t).isSome ∧
          ∀ current, (build settings).isUnexpected current t = true ↔
            current ≠ some t.id ∧ (build settings).expects t = false) ∧
      (withDefaults settings).expects t = (t.benign?.isSome || (settingsOnly settings).expects t) ∧
      ((∀ r, .rule r ∉ settings) → (settingsOnly settings).expects t = false) := by
  have hfirst := firstMatch?_withDefaults settings t
  refine ⟨fun kind hkind => ?_, fun hnone => ?_, fun rules label => Rule.firstMatch?_eq_some_iff,
    fun build _ => ⟨expects_eq_isSome_firstMatch? t _, fun current => isUnexpected_iff⟩, ?_, fun hrules => ?_⟩
  · rw [hfirst, hkind]
    rfl
  · rw [hfirst, hnone]
    rfl
  · rw [expects_eq_isSome_firstMatch?, expects_eq_isSome_firstMatch?, hfirst, Option.isSome_or, Option.isSome_map]
  · rw [Bool.eq_false_iff, Ne, expects_iff, rules_settingsOnly]
    rintro ⟨r, hr, -⟩
    exact hrules r (Setting.mem_filterMap_rule?.mp hr)

end Policy

end Stragglers
