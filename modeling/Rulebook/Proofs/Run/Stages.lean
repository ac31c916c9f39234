import Rulebook.Proofs.Results
import Rulebook.Proofs.Run.Direct

/-
  A direct test stage by stage: what one rule comes to, what it
  leaves to the rules behind it, and what a test reports that
  gets past some of its rules.

  Key definitions include:
    * `Environment.record`
    * `Direct.Comes`
    * `Direct.State.after`
    * `Direct.Reaches`
    * `Direct.reported`

  Main results:
    * `Direct.firing?_eq_ok_iff`
    * `Direct.rules_append`
    * `Direct.test_of_reaches`
    * `Direct.test_of_not_reaches`
-/

namespace Rulebook

------------------------------------------------------------
-- Recorded Firings
------------------------------------------------------------

namespace Environment

/- The environment with the values of firings written. -/
def record
    (env : Environment)
    (firings : List Firing) : Environment :=
  firings.foldl
    (fun env firing => env.set firing.target firing.value)
    env

@[simp]
theorem record_nil (env : Environment) :
    env.record [] = env :=
  rfl

/- Firings in a row are written one after the other. -/
theorem record_append
    (env : Environment)
    (xs ys : List Firing) :
    env.record (xs ++ ys) = (env.record xs).record ys := by
  simp [record, List.foldl_append]

end Environment

namespace Direct

------------------------------------------------------------
-- One Rule
------------------------------------------------------------

/- What a rule without an error comes to. -/
inductive Comes
    (r : Rule)
    (assigned : List FieldPath)
    (env : Environment) : Option Firing → Prop where
  | skipped
      {target : FieldPath}
      (hTarget : FieldPath.ofText? r.target = some target)
      (hAssigned : target ∈ assigned) :
      Comes r assigned env none
  | idle
      {target : FieldPath}
      {condition : Expr}
      (hTarget : FieldPath.ofText? r.target = some target)
      (hOpen : target ∉ assigned)
      (hCondition : compile r.condition.text = .ok condition)
      (hFails : (condition.eval env).isTruthy = false) :
      Comes r assigned env none
  | fired
      {target : FieldPath}
      {condition value : Expr}
      (hTarget : FieldPath.ofText? r.target = some target)
      (hOpen : target ∉ assigned)
      (hCondition : compile r.condition.text = .ok condition)
      (hHolds : (condition.eval env).isTruthy = true)
      (hValue : compile r.value.text = .ok value) :
      Comes r assigned env
        (some ⟨r.name, target, value.eval env⟩)

/- The expression of a clause is the one of its text. -/
theorem expression_eq_ok_iff
    {clause : Clause}
    {e : Expr} :
    clause.expression = .ok e ↔
      compile clause.text = .ok e :=
  mapError_eq_ok_iff

variable {r : Rule}
variable {assigned : List FieldPath}
variable {env : Environment}
variable {outcome : Option Firing}

/- These are all the ways in which a rule goes on. -/
theorem firing?_eq_ok_iff :
    firing? r assigned env = .ok outcome ↔
      Comes r assigned env outcome := by
  constructor
  · intro h
    unfold firing? at h
    split at h
    · cases h
    rename_i target hTarget
    split at h
    · rename_i hAssigned
      cases h
      exact .skipped hTarget hAssigned
    rename_i hOpen
    split at h
    · cases h
    rename_i condition hCondition
    rw [expression_eq_ok_iff] at hCondition
    split at h
    · rename_i hHolds
      split at h
      · cases h
      rename_i value hValue
      rw [expression_eq_ok_iff] at hValue
      cases h
      exact .fired hTarget hOpen hCondition hHolds hValue
    · rename_i hFails
      cases h
      exact
        .idle hTarget hOpen hCondition (by simpa using hFails)
  · intro h
    unfold firing?
    cases h with
    | skipped hTarget hAssigned =>
        simp only [hTarget, if_pos hAssigned]
    | idle hTarget hOpen hCondition hFails =>
        rw [← expression_eq_ok_iff] at hCondition
        simp [hTarget, hOpen, hCondition, hFails]
    | fired hTarget hOpen hCondition hHolds hValue =>
        rw [← expression_eq_ok_iff] at hCondition hValue
        simp [hTarget, hOpen, hCondition, hHolds, hValue]

------------------------------------------------------------
-- States
------------------------------------------------------------

namespace State

variable {state : State}
variable {start : Environment}

/- A path is open if no firing has it as its target. -/
theorem not_mem_assigned_iff
    {target : FieldPath} :
    target ∉ state.assigned ↔
      ∀ f ∈ state.firings, f.target ≠ target := by
  simp [assigned]

/- The state behind what a rule came to. -/
def after
    (state : State)
    (outcome : Option Firing) : State where
  firings := state.firings ++ outcome.toList
  environment := state.environment.record outcome.toList

end State

/- A rule without an error leads to the rules behind it. -/
theorem rules_of_firing?
    {state : State}
    {rs : List Rule}
    (h :
      firing? r state.assigned state.environment =
        .ok outcome) :
    rules (r :: rs) state = rules rs (state.after outcome) := by
  cases outcome with
  | none => simp [rules, h, State.after]
  | some firing =>
      simp [rules, h, State.after, State.fire,
        Environment.record]

/- Rules behind others go on where no error stops them. -/
theorem rules_append
    (front back : List Rule)
    (state : State) :
    rules (front ++ back) state =
      match rules front state with
      | (state, none) => rules back state
      | (state, some e) => (state, some e) := by
  induction front generalizing state with
  | nil => rfl
  | cons r front ih =>
      cases hFiring :
          firing? r state.assigned state.environment with
      | error e => simp [rules, hFiring]
      | ok outcome =>
          rw [List.cons_append, rules_of_firing? hFiring,
            rules_of_firing? hFiring, ih]

------------------------------------------------------------
-- Tests
------------------------------------------------------------

/- A test gets past its `given` lines and some rules. -/
def Reaches
    (front : List Rule)
    (t : TestCase)
    (state : State) : Prop :=
  ∃ start,
    givens t.givens .empty = (start, none) ∧
      rules front ⟨[], start⟩ = (state, none)

/-
  The report of a test by how its rules ended: only without an
  error does it go on to what it expects.
-/
def reported
    (t : TestCase)
    (ended : State × Option EvalError) : TestReport :=
  let outcomes :=
    match ended.2 with
    | some e => ([], some e)
    | none => expects ended.1.environment t.expects
  ⟨t.name, ended.1.firings, outcomes.1, ended.1.environment,
    outcomes.2⟩

variable {front : List Rule}
variable {t : TestCase}
variable {state state' : State}

/- There is one state that a test gets to behind some rules. -/
theorem Reaches.unique
    (h : Reaches front t state)
    (h' : Reaches front t state') : state = state' := by
  rcases h with ⟨start, hGivens, hRules⟩
  rcases h' with ⟨start', hGivens', hRules'⟩
  rw [hGivens] at hGivens'
  cases hGivens'
  rw [hRules] at hRules'
  cases hRules'
  rfl

/- Behind rules that a test gets past, the others decide. -/
theorem test_of_reaches
    (back : List Rule)
    (h : Reaches front t state) :
    test (front ++ back) t =
      reported t (rules back state) := by
  rcases h with ⟨start, hGivens, hFront⟩
  rcases hBack : rules back state with ⟨last, error⟩
  have hRules :
      rules (front ++ back) ⟨[], start⟩ = (last, error) := by
    rw [rules_append, hFront]
    exact hBack
  cases error with
  | none => exact test_of_rules hGivens hRules
  | some e => exact test_of_rules_error hGivens hRules

/- A test that does not get past some rules has an error. -/
theorem test_of_not_reaches
    (h : ¬ ∃ state, Reaches front t state) :
    ∃ report e,
      report.error = some e ∧
        ∀ back, test (front ++ back) t = report := by
  rcases hGivens : givens t.givens .empty with
    ⟨start, error⟩
  cases error with
  | some e =>
      exact
        ⟨⟨t.name, [], [], start, some e⟩, e, rfl,
          fun back => test_of_givens_error hGivens⟩
  | none =>
      rcases hFront : rules front ⟨[], start⟩ with
        ⟨last, error⟩
      cases error with
      | none => exact absurd ⟨last, start, hGivens, hFront⟩ h
      | some e =>
          refine
            ⟨⟨t.name, last.firings, [], last.environment,
              some e⟩, e, rfl, ?_⟩
          intro back
          apply test_of_rules_error hGivens
          rw [rules_append, hFront]

/- A test without an error gets past all its rules. -/
theorem exists_reaches_of_test
    (h : (test front t).error = none) :
    ∃ state, Reaches front t state := by
  apply Classical.byContradiction
  intro hNot
  rcases test_of_not_reaches hNot with
    ⟨report, e, hError, hReport⟩
  have hTest := hReport []
  rw [List.append_nil] at hTest
  rw [hTest, hError] at h
  cases h

/- What a test expects depends on how its rules ended. -/
theorem reported_congr
    {ended ended' : State × Option EvalError}
    (hEnvironment :
      ended.1.environment = ended'.1.environment)
    (hError : ended.2 = ended'.2) :
    (reported t ended).expects =
        (reported t ended').expects ∧
      (reported t ended).error =
        (reported t ended').error := by
  simp only [reported, hEnvironment, hError, and_self]

end Direct

end Rulebook
