import Mathlib.Data.List.Basic
import Stragglers.Proofs.FirstMatch
import Stragglers.Proofs.LargerBudget

/-!
# The log of a check

What a check tells replays what it decides: in each attempt, in the order of the snapshot, one line for each task that is expected
(`Policy.Accounts`), behind each attempt but the last one line with the number of tasks left and the pause, and at the end one line
for what became of it. So no task of any snapshot is lost or told twice (`log_accounts_for_every_task`).
-/

namespace Stragglers

open Backoff

/-! ## Lines -/

/-- A line of the log. -/
structure Line where
  level : Level
  text : String
deriving DecidableEq, Repr

/-- A notice as it stands in the log. -/
def Notice.line (n : Notice) : Line :=
  ⟨n.level, n.message⟩

/-- The line of an action, if the action is to give a notice. -/
def Action.line? : Action → Option Line
  | .noted n => some n.line
  | _ => none

/-- The lines that a trace leaves in the log. -/
def Traced.log {α : Type} (t : Traced α) : List Line :=
  t.actions.filterMap Action.line?

/-- The lines that the source itself leaves when it answers the request of this index. -/
def Source.lines (s : Source) (index : Nat) : List Line :=
  (s.shot index).notices.map Notice.line

/-- The line behind an attempt that another one follows. -/
def Line.retrying (index left : Nat) (pause : Duration) : Line :=
  ⟨.debug, "Attempt " ++ toString index ++ ": " ++ toString left ++ " unexpected, retrying in " ++ pause.text⟩

/-- The line at the end of a check that succeeds after more than one attempt. -/
def Line.cleared (attempts : Nat) : Line :=
  ⟨.info, "No unexpected tasks after " ++ toString attempts ++ " attempts"⟩

/-- The line at the end of a check that reports tasks. -/
def Line.alive (left attempts : Nat) : Line :=
  ⟨.warn, toString left ++ " unexpected tasks still alive after " ++ toString attempts ++ " attempts"⟩

theorem filterMap_line?_noted (notices : List Notice) :
    (notices.map Action.noted).filterMap Action.line? = notices.map Notice.line := by
  rw [List.filterMap_map]
  exact congrFun List.filterMap_eq_map _

namespace Policy

variable {p : Policy} {s : Source} {current : Option TaskId} {tasks : List TaskRecord} {lines : List Line} {left index last : Nat}

/-! ## The tasks of a snapshot -/

/-- The line says that the task is expected, under the label of the first rule that matches it. -/
def Tells (p : Policy) (t : TaskRecord) (line : Line) : Prop :=
  ∃ i, ∃ h : i < p.rules.length, p.rules[i].holds t = true ∧ (∀ j, (hj : j < i) → p.rules[j].holds t = false) ∧
    line = ⟨.debug, t.id.text ++ " expected (" ++ p.rules[i].label ++ ")"⟩

/-- The lines account for the tasks of a snapshot, one after the other, when so many are left: there is one line for each task that
some rule matches and that is not the one that checks, and none for any other. -/
inductive Accounts (p : Policy) (current : Option TaskId) : List TaskRecord → List Line → Nat → Prop where
  | nil : Accounts p current [] [] 0
  | current {t : TaskRecord} {tasks : List TaskRecord} {lines : List Line} {left : Nat} (h : current = some t.id)
      (hrest : Accounts p current tasks lines left) : Accounts p current (t :: tasks) lines left
  | expected {t : TaskRecord} {line : Line} {tasks : List TaskRecord} {lines : List Line} {left : Nat} (h : current ≠ some t.id)
      (hline : p.Tells t line) (hrest : Accounts p current tasks lines left) :
      Accounts p current (t :: tasks) (line :: lines) left
  | unexpected {t : TaskRecord} {tasks : List TaskRecord} {lines : List Line} {left : Nat} (h : current ≠ some t.id)
      (hnone : ∀ r ∈ p.rules, r.holds t = false) (hrest : Accounts p current tasks lines left) :
      Accounts p current (t :: tasks) lines (left + 1)

/-- Each task is the one that checks, has its line, or is left. -/
theorem Accounts.length_eq (h : p.Accounts current tasks lines left) :
    tasks.length = tasks.countP (fun t => current = some t.id) + lines.length + left := by
  induction h with
  | nil => rfl
  | current hcurrent _ ih =>
    rw [List.countP_cons_of_pos (by simpa using hcurrent), List.length_cons]
    omega
  | expected hcurrent _ _ ih =>
    rw [List.countP_cons_of_neg (by simpa using hcurrent), List.length_cons, List.length_cons]
    omega
  | unexpected hcurrent _ _ ih =>
    rw [List.countP_cons_of_neg (by simpa using hcurrent), List.length_cons]
    omega

theorem Accounts.level_eq (h : p.Accounts current tasks lines left) : ∀ line ∈ lines, line.level = .debug := by
  induction h with
  | nil => exact fun _ hline => absurd hline List.not_mem_nil
  | current _ _ ih => exact ih
  | expected _ htells _ ih =>
    obtain ⟨i, hi, -, -, rfl⟩ := htells
    exact List.forall_mem_cons.mpr ⟨rfl, ih⟩
  | unexpected _ _ _ ih => exact ih

theorem tells_of_firstMatch? {t : TaskRecord} {label : String} (h : p.firstMatch? t = some label) :
    p.Tells t (Notice.expected t.id label).line := by
  obtain ⟨i, hi, hholds, rfl, hbefore⟩ := Rule.firstMatch?_eq_some_iff.mp h
  exact ⟨i, hi, hholds, hbefore, rfl⟩

/-- What an attempt tells accounts for the tasks of its snapshot. -/
theorem accounts_noticeOf? (p : Policy) (current : Option TaskId) (tasks : List TaskRecord) :
    p.Accounts current tasks ((tasks.filterMap (p.noticeOf? current)).map Notice.line) (p.leftOver current tasks).length := by
  induction tasks with
  | nil => exact .nil
  | cons t tasks ih =>
    unfold leftOver at ih ⊢
    by_cases hcurrent : current = some t.id
    · have hnotice : p.noticeOf? current t = none := if_pos hcurrent.symm
      rw [List.filterMap_cons_none hnotice, List.filter_cons_of_neg (by simp [hcurrent])]
      exact .current hcurrent ih
    · have hnotice : p.noticeOf? current t = (p.firstMatch? t).map (.expected t.id) := if_neg (Ne.symm hcurrent)
      cases hmatch : p.firstMatch? t with
      | some label =>
        rw [hmatch] at hnotice
        obtain ⟨i, hi, hholds, -⟩ := Rule.firstMatch?_eq_some_iff.mp hmatch
        have hsome : ¬(current ≠ some t.id ∧ ∀ r ∈ p.rules, r.holds t = false) := fun h => by
          have hfalse := h.2 _ (List.getElem_mem hi)
          rw [hholds] at hfalse
          cases hfalse
        rw [List.filterMap_cons_some hnotice, List.filter_cons_of_neg (by simpa using hsome), List.map_cons]
        exact .expected hcurrent (tells_of_firstMatch? hmatch) ih
      | none =>
        rw [hmatch] at hnotice
        have hnone : ∀ r ∈ p.rules, r.holds t = false := by
          rw [firstMatch?, Rule.firstMatch?, Option.map_eq_none_iff, List.find?_eq_none] at hmatch
          simpa using hmatch
        rw [List.filterMap_cons_none hnotice, List.filter_cons_of_pos (by simpa using ⟨hcurrent, hnone⟩), List.length_cons]
        exact .unexpected hcurrent hnone ih

/-! ## The lines of an attempt -/

/-- What the attempt of this index tells of the tasks of its snapshot. -/
def told (p : Policy) (s : Source) (index : Nat) : List Line :=
  match (s.shot index).outcome with
  | .error _ => []
  | .ok tasks => (tasks.filterMap (p.noticeOf? s.current)).map Notice.line

/-- How many tasks the attempt of this index leaves. -/
def leftAt (p : Policy) (s : Source) (index : Nat) : Nat :=
  match (s.shot index).outcome with
  | .error _ => 0
  | .ok tasks => (p.leftOver s.current tasks).length

theorem filterMap_line?_attemptActions (p : Policy) (s : Source) (index : Nat) :
    (attemptActions (p.attempt s) index).filterMap Action.line? = s.lines index ++ p.told s index := by
  have hattempt : (Action.attempt index).line? = none := rfl
  have hsnapshot : Action.snapshot.line? = none := rfl
  rw [attemptActions, List.filterMap_cons_none hattempt]
  unfold attempt told Source.lines
  cases houtcome : (s.shot index).outcome with
  | error e =>
    simp only [Shot.take, Traced.actions_bind, Traced.value_bind, Traced.actions_act, Traced.actions_noteAll, houtcome,
      Traced.actions_pure, Traced.value_pure, List.append_nil, List.singleton_append, List.filterMap_cons_none hsnapshot,
      filterMap_line?_noted]
  | ok tasks =>
    simp only [Shot.take, unexpected, Traced.actions_bind, Traced.value_bind, Traced.actions_act, Traced.actions_noteAll,
      houtcome, Traced.actions_pure, Traced.value_pure, List.append_nil, List.cons_append, List.nil_append,
      List.filterMap_cons_none hsnapshot, List.filterMap_append, filterMap_line?_noted]

theorem filterMap_line?_pauseActions (houtcome : (s.shot index).outcome = .ok tasks) :
    (p.backoff.pauseActions (p.attempt s) index).filterMap Action.line? =
      [Line.retrying index (p.leftAt s index) (p.backoff.delay index)] := by
  rw [pauseActions, value_attempt_ok houtcome, leftAt, houtcome]
  rfl

/-- The line with which a check ends, by what it gives: how many attempts it took, if it took more than one, or how many tasks are
left. -/
def closing (attempts : Nat) : Except LeakError Unit → List Line
  | .ok () => if 1 < attempts then [.cleared attempts] else []
  | .error (.leaked r) => [.alive r.tasks.length r.attempts]
  | .error _ => []

theorem filterMap_line?_succeeded (p : Policy) (attempts : Nat) :
    (p.conclude (.ok (.succeeded attempts))).actions.filterMap Action.line? = closing attempts (.ok ()) := by
  have hline : (Action.noted (.cleared attempts)).line? = some (.cleared attempts) := rfl
  by_cases h : 1 < attempts
  · simp [conclude, closing, h, hline]
  · simp [conclude, closing, h]

theorem filterMap_line?_conclude (p : Policy) (s : Source) (last : Nat) :
    (p.conclude (outcomeAt (p.attempt s) last)).actions.filterMap Action.line? =
      closing (attemptsAt last) (p.verdict s last) := by
  cases houtcome : (s.shot last).outcome with
  | error e =>
    rw [outcomeAt, value_attempt_error houtcome, verdict_of_error houtcome]
    rfl
  | ok tasks =>
    by_cases hleft : p.leftOver s.current tasks = []
    · rw [outcomeAt, value_attempt_ok houtcome, verdict_of_leftOver_eq_nil houtcome hleft, hleft]
      exact filterMap_line?_succeeded p (attemptsAt last)
    · have hverdict := verdict_of_leftOver_ne_nil houtcome hleft
      rw [actions_conclude_leaked hverdict, hverdict]
      rfl

/-! ## The whole log -/

/-- Before the last attempt no snapshot fails. -/
theorem exists_tasks_of_lt (h : IsLast (p.Settles s) p.maxRetries.toNat last) (hi : index < last) :
    ∃ tasks, (s.shot index).outcome = .ok tasks := by
  cases houtcome : (s.shot index).outcome with
  | error e => exact absurd (settles_of_error houtcome) (h.unsettled index hi)
  | ok tasks => exact ⟨tasks, rfl⟩

/-- The log of a check: attempt by attempt, a line behind each but the last, and the line at the end. -/
theorem log_check (h : IsLast (p.Settles s) p.maxRetries.toNat last) :
    (p.check s).log =
      (List.range last).flatMap (fun i => s.lines i ++ p.told s i ++ [Line.retrying i (p.leftAt s i) (p.backoff.delay i)]) ++
        (s.lines last ++ p.told s last) ++ closing (attemptsAt last) (p.check s).value := by
  have hround : ∀ i ∈ List.range last,
      (attemptActions (p.attempt s) i ++ p.backoff.pauseActions (p.attempt s) i).filterMap Action.line? =
        s.lines i ++ p.told s i ++ [Line.retrying i (p.leftAt s i) (p.backoff.delay i)] := by
    intro i hi
    obtain ⟨tasks, houtcome⟩ := exists_tasks_of_lt h (List.mem_range.mp hi)
    rw [List.filterMap_append, filterMap_line?_attemptActions, filterMap_line?_pauseActions houtcome]
  rw [Traced.log, actions_check h, rounds, List.filterMap_append, List.filterMap_append, List.filterMap_flatMap,
    List.flatMap_congr hround, filterMap_line?_attemptActions, filterMap_line?_conclude, value_check h]

theorem filter_level_told (p : Policy) (s : Source) (index : Nat) : (p.told s index).filter (·.level ≠ .debug) = [] := by
  rw [List.filter_eq_nil_iff]
  unfold told
  cases (s.shot index).outcome with
  | error e => exact fun _ hline => absurd hline List.not_mem_nil
  | ok tasks =>
    intro line hline
    simp [(accounts_noticeOf? p s.current tasks).level_eq line hline]

theorem filter_level_closing (attempts : Nat) (result : Except LeakError Unit) :
    (closing attempts result).filter (·.level ≠ .debug) = closing attempts result := by
  unfold closing
  split
  · split <;> rfl
  · rfl
  · rfl

/-- Apart from what the source tells, only the end of a check is told above the level of its attempts. -/
theorem filter_level_log (h : IsLast (p.Settles s) p.maxRetries.toNat last) :
    (p.check s).log.filter (·.level ≠ .debug) =
      ((List.range (last + 1)).flatMap s.lines).filter (·.level ≠ .debug) ++ closing (attemptsAt last) (p.check s).value := by
  have hretrying : ∀ i, [Line.retrying i (p.leftAt s i) (p.backoff.delay i)].filter (·.level ≠ .debug) = [] := fun _ => rfl
  simp only [log_check h, List.filter_append, List.filter_flatMap, filter_level_told, hretrying, filter_level_closing,
    List.append_nil, List.range_succ, List.flatMap_append, List.flatMap_singleton]

end Policy

open Policy in
/-- The log of a check accounts for every task of every snapshot, whatever the rules and the budget are. Each attempt tells, in the
order of its snapshot and behind what the source tells itself, of each task that a rule matches and that is not the one that checks
once, under the label of the first rule that matches; then follows, unless it is the last attempt, the number of tasks left and
the pause that is made. The tasks of the snapshot are the one that checks, those told of, and those left: as many as the line says,
none at the last attempt of a check that ends well, and those of the report if there is one. At the end stands one line for a
success after more than one attempt, one for a report, and none for an error of a snapshot, and no other line of the check is above
the level of its attempts. -/
theorem log_accounts_for_every_task (p : Policy) (s : Source) :
    ∃ (last : Nat) (told : Nat → List Line) (left : Nat → Nat),
      (p.check s).attempts = List.range (last + 1) ∧
      (∀ i ≤ last, match (s.shot i).outcome with
        | .ok tasks => p.Accounts s.current tasks (told i) (left i) ∧
            tasks.length = tasks.countP (fun t => s.current = some t.id) + (told i).length + left i
        | .error _ => i = last ∧ told i = []) ∧
      (p.check s).log =
        (List.range last).flatMap (fun i => s.lines i ++ told i ++ [Line.retrying i (left i) (p.backoff.delay i)]) ++
          (s.lines last ++ told last) ++ closing (min (last + 1) (UInt32.size - 1)) (p.check s).value ∧
      (p.check s).log.filter (·.level ≠ .debug) =
        ((List.range (last + 1)).flatMap s.lines).filter (·.level ≠ .debug) ++
          closing (min (last + 1) (UInt32.size - 1)) (p.check s).value ∧
      (p.check s).sleeps = (List.range last).map p.backoff.delay ∧
      match (p.check s).value with
        | .ok () => left last = 0
        | .error (.leaked r) => left last = r.tasks.length ∧ r.attempts = min (last + 1) (UInt32.size - 1)
        | .error (.snapshot e) => (s.shot last).outcome = .error e
        | .error .cleanupNotAllowed => False := by
  obtain ⟨last, hlast⟩ := exists_isLast (p.Settles s) p.maxRetries.toNat
  have hattempts : attemptsAt last = min (last + 1) (UInt32.size - 1) := rfl
  have hlog := log_check hlast
  have hlevel := filter_level_log hlast
  rw [hattempts] at hlog hlevel
  refine ⟨last, p.told s, p.leftAt s, attempts_check hlast, fun i hi => ?_, hlog, hlevel, sleeps_check hlast, ?_⟩
  · unfold Policy.told leftAt
    split
    · rename_i tasks houtcome
      simp only [houtcome]
      exact ⟨accounts_noticeOf? p s.current tasks, (accounts_noticeOf? p s.current tasks).length_eq⟩
    · rename_i e houtcome
      simp only [houtcome]
      refine ⟨Nat.le_antisymm hi (Nat.le_of_not_lt fun hlt => ?_), trivial⟩
      obtain ⟨tasks, htasks⟩ := exists_tasks_of_lt hlast hlt
      rw [houtcome] at htasks
      cases htasks
  · rw [value_check hlast]
    cases houtcome : (s.shot last).outcome with
    | error e =>
      rw [verdict_of_error houtcome]
    | ok tasks =>
      by_cases hleft : p.leftOver s.current tasks = []
      · rw [verdict_of_leftOver_eq_nil houtcome hleft, leftAt, houtcome]
        exact congrArg List.length hleft
      · rw [verdict_of_leftOver_ne_nil houtcome hleft, leftAt, houtcome]
        exact ⟨rfl, rfl⟩

example :
    ((Policy.ofRules [⟨"idle", fun t => t.state == "idle"⟩]).check (.ofScript
      [.ofTasks [.of ⟨1⟩ "running" [], .of ⟨2⟩ "idle" [], .of ⟨3⟩ "running" []], .ofTasks [.of ⟨2⟩ "idle" []]]
      (some ⟨1⟩))).log =
      [⟨.debug, "Task#2 expected (idle)"⟩, ⟨.debug, "Attempt 0: 1 unexpected, retrying in 1µs"⟩,
        ⟨.debug, "Task#2 expected (idle)"⟩, ⟨.info, "No unexpected tasks after 2 attempts"⟩] := by
  decide +kernel

end Stragglers
