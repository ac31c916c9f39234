import Mathlib.Data.List.Forall2
import Rulebook.Proofs.Run.Isolation
import Rulebook.Proofs.Run.Stages

/-
  What is left of a test that an error ends: the report of the
  test cut off before the clause or the rule that has the error,
  and the error.

  Key definitions include:
    * `advance`
    * `Rule.Fails`
    * `Interrupted`
    * `Runner.report`

  Main results:
    * `advance_eq_error_iff`
    * `Direct.firing?_eq_error_iff`
    * `Direct.rules_eq_error_iff`
    * `Direct.interrupted_iff`
    * `Runner.failures_leave_no_trace`
-/

namespace Rulebook

------------------------------------------------------------
-- Steps Up To A Failure
------------------------------------------------------------

section

variable {ε σ α : Type}
variable {step : σ → α → Except ε σ}

/-
  A step for each member of a list, up to the first failure: the
  state so far, and the error.
-/
def advance
    (step : σ → α → Except ε σ) :
    List α → σ → σ × Option ε
  | [], state => (state, none)
  | x :: xs, state =>
      match step state x with
      | .ok next => advance step xs next
      | .error e => (state, some e)

variable {x : α}
variable {xs : List α}
variable {state next last : σ}
variable {e : ε}

theorem advance_of_ok
    (h : step state x = .ok next) :
    advance step (x :: xs) state = advance step xs next := by
  simp only [advance, h]

theorem advance_of_error
    (h : step state x = .error e) :
    advance step (x :: xs) state = (state, some e) := by
  simp only [advance, h]

/-
  An error is that of the first step that fails.  The state is
  the one that the steps before it have led to.
-/
theorem advance_eq_error_iff :
    advance step xs state = (last, some e) ↔
      ∃ front x back,
        xs = front ++ x :: back ∧
          advance step front state = (last, none) ∧
          step last x = .error e := by
  constructor
  · intro h
    induction xs generalizing state with
    | nil => cases h
    | cons y ys ih =>
        cases hStep : step state y with
        | ok next =>
            rw [advance_of_ok hStep] at h
            rcases ih h with
              ⟨front, x, back, rfl, hFront, hError⟩
            refine ⟨y :: front, x, back, rfl, ?_, hError⟩
            rw [advance_of_ok hStep, hFront]
        | error found =>
            rw [advance_of_error hStep] at h
            cases h
            exact ⟨[], y, ys, rfl, rfl, hStep⟩
  · rintro ⟨front, x, back, rfl, hFront, hError⟩
    induction front generalizing state with
    | nil =>
        cases hFront
        exact advance_of_error hError
    | cons y front ih =>
        rw [List.cons_append]
        cases hStep : step state y with
        | ok next =>
            rw [advance_of_ok hStep] at hFront ⊢
            exact ih hFront
        | error found =>
            rw [advance_of_error hStep] at hFront
            cases hFront

end

------------------------------------------------------------
-- Rules That Fail
------------------------------------------------------------

/-
  A rule has an error behind some firings.  Its condition
  matters only if none of them had its target, and its value
  only if moreover its condition holds.
-/
inductive Rule.Fails
    (r : Rule)
    (firings : List Firing)
    (env : Environment)
    (e : EvalError) : Prop where
  | target
      (hTarget : FieldPath.ofText? r.target = none)
      (hError :
        e =
          ⟨.badTarget, r.target, r.position,
            some r.position⟩)
  | condition
      {target : FieldPath}
      (hTarget : FieldPath.ofText? r.target = some target)
      (hOpen : ∀ f ∈ firings, f.target ≠ target)
      (hError : r.condition.expression = .error e)
  | value
      {target : FieldPath}
      {condition : Expr}
      (hTarget : FieldPath.ofText? r.target = some target)
      (hOpen : ∀ f ∈ firings, f.target ≠ target)
      (hCondition : compile r.condition.text = .ok condition)
      (hHolds : (condition.eval env).isTruthy = true)
      (hError : r.value.expression = .error e)

namespace Direct

/- These are all the errors of a rule. -/
theorem firing?_eq_error_iff
    {r : Rule}
    {state : State}
    {e : EvalError} :
    firing? r state.assigned state.environment = .error e ↔
      r.Fails state.firings state.environment e := by
  constructor
  · intro h
    unfold firing? at h
    split at h
    · rename_i hTarget
      cases h
      exact .target hTarget rfl
    rename_i target hTarget
    split at h
    · cases h
    rename_i hOpen
    rw [State.not_mem_assigned_iff] at hOpen
    split at h
    · rename_i hCondition
      cases h
      exact .condition hTarget hOpen hCondition
    rename_i condition hCondition
    rw [expression_eq_ok_iff] at hCondition
    split at h
    · rename_i hHolds
      split at h
      · rename_i hValue
        cases h
        exact .value hTarget hOpen hCondition hHolds hValue
      · cases h
    · cases h
  · intro h
    unfold firing?
    cases h with
    | target hTarget hError =>
        simp only [hTarget, hError]
    | condition hTarget hOpen hError =>
        rw [← State.not_mem_assigned_iff] at hOpen
        simp only [hTarget, hOpen, hError, if_false]
    | value hTarget hOpen hCondition hHolds hError =>
        rw [← State.not_mem_assigned_iff] at hOpen
        rw [← expression_eq_ok_iff] at hCondition
        simp only [hTarget, hOpen, hCondition, hHolds, hError,
          if_false, if_true]

------------------------------------------------------------
-- Stages
------------------------------------------------------------

/- A given line as a step on an environment. -/
def givenStep
    (env : Environment)
    (clause : Clause) : Except EvalError Environment :=
  clause.assignments.map env.assign

/- A rule as a step on a state. -/
def ruleStep
    (state : State)
    (r : Rule) : Except EvalError State :=
  (firing? r state.assigned state.environment).map state.after

/- An expectation as a step on the outcomes before it. -/
def expectStep
    (env : Environment)
    (outcomes : List ExpectOutcome)
    (clause : Clause) :
    Except EvalError (List ExpectOutcome) :=
  clause.expression.map fun e =>
    outcomes ++ [⟨clause.text, (e.eval env).isTruthy⟩]

theorem givens_eq_advance
    (clauses : List Clause)
    (env : Environment) :
    givens clauses env = advance givenStep clauses env := by
  induction clauses generalizing env with
  | nil => rfl
  | cons clause clauses ih =>
      cases hClause : clause.assignments with
      | ok list =>
          have hStep :
              givenStep env clause = .ok (env.assign list) :=
            map_eq_ok_iff.mpr ⟨list, hClause, rfl⟩
          rw [advance_of_ok hStep, ← ih]
          simp only [givens, hClause]
      | error e =>
          have hStep : givenStep env clause = .error e :=
            map_eq_error_iff.mpr hClause
          rw [advance_of_error hStep]
          simp only [givens, hClause]

theorem rules_eq_advance
    (rs : List Rule)
    (state : State) :
    rules rs state = advance ruleStep rs state := by
  induction rs generalizing state with
  | nil => rfl
  | cons r rs ih =>
      cases hFiring :
          firing? r state.assigned state.environment with
      | ok outcome =>
          have hStep :
              ruleStep state r = .ok (state.after outcome) :=
            map_eq_ok_iff.mpr ⟨outcome, hFiring, rfl⟩
          rw [advance_of_ok hStep, ← ih,
            rules_of_firing? hFiring]
      | error e =>
          have hStep : ruleStep state r = .error e :=
            map_eq_error_iff.mpr hFiring
          rw [advance_of_error hStep]
          simp only [rules, hFiring]

/- Expectations go on behind outcomes that are there. -/
theorem advance_expectStep
    (env : Environment)
    (clauses : List Clause)
    (outcomes : List ExpectOutcome) :
    advance (expectStep env) clauses outcomes =
      (outcomes ++ (expects env clauses).1,
        (expects env clauses).2) := by
  induction clauses generalizing outcomes with
  | nil => simp [expects, advance]
  | cons clause clauses ih =>
      cases hClause : clause.expression with
      | ok e =>
          have hStep :
              expectStep env outcomes clause =
                .ok (outcomes ++
                  [⟨clause.text, (e.eval env).isTruthy⟩]) :=
            map_eq_ok_iff.mpr ⟨e, hClause, rfl⟩
          rw [advance_of_ok hStep, ih]
          simp [expects, hClause]
      | error e =>
          have hStep :
              expectStep env outcomes clause = .error e :=
            map_eq_error_iff.mpr hClause
          rw [advance_of_error hStep]
          simp [expects, hClause]

theorem expects_eq_advance
    (env : Environment)
    (clauses : List Clause) :
    expects env clauses =
      advance (expectStep env) clauses [] := by
  rw [advance_expectStep, List.nil_append]

section

variable {rs : List Rule}
variable {t : TestCase}
variable {clauses : List Clause}
variable {firings : List Firing}
variable {outcomes : List ExpectOutcome}
variable {start env : Environment}
variable {state last : State}
variable {e : EvalError}

/- Given lines stop at the first one that has an error. -/
theorem givens_eq_error_iff :
    givens clauses start = (env, some e) ↔
      ∃ front clause back,
        clauses = front ++ clause :: back ∧
          givens front start = (env, none) ∧
          clause.assignments = .error e := by
  simp only [givens_eq_advance, advance_eq_error_iff,
    givenStep, map_eq_error_iff]

/- Rules stop at the first one that fails where it is. -/
theorem rules_eq_error_iff :
    rules rs state = (last, some e) ↔
      ∃ front r back,
        rs = front ++ r :: back ∧
          rules front state = (last, none) ∧
          r.Fails last.firings last.environment e := by
  simp only [rules_eq_advance, advance_eq_error_iff,
    ruleStep, map_eq_error_iff, firing?_eq_error_iff]

/- Expectations stop at the first one that has an error. -/
theorem expects_eq_error_iff :
    expects env clauses = (outcomes, some e) ↔
      ∃ front clause back,
        clauses = front ++ clause :: back ∧
          expects env front = (outcomes, none) ∧
          clause.expression = .error e := by
  simp only [expects_eq_advance, advance_eq_error_iff,
    expectStep, map_eq_error_iff]

/- A test without an error gets through all of its stages. -/
theorem test_eq_iff :
    test rs t = ⟨t.name, firings, outcomes, env, none⟩ ↔
      Reaches rs t ⟨firings, env⟩ ∧
        expects env t.expects = (outcomes, none) := by
  constructor
  · intro h
    have hNone : (test rs t).error = none := by
      rw [h]
    rcases exists_reaches_of_test hNone with
      ⟨state, hReaches⟩
    rcases hReaches with ⟨start, hGivens, hRules⟩
    rw [test_of_rules hGivens hRules, TestReport.mk.injEq]
      at h
    rcases h with ⟨_, rfl, hOutcomes, rfl, hError⟩
    exact
      ⟨⟨start, hGivens, hRules⟩, Prod.ext hOutcomes hError⟩
  · rintro ⟨⟨start, hGivens, hRules⟩, hExpects⟩
    rw [test_of_rules hGivens hRules, hExpects]

end

end Direct

------------------------------------------------------------
-- Interrupted Tests
------------------------------------------------------------

/- The test with some of its clauses only. -/
def TestCase.cut
    (t : TestCase)
    (givens expects : List Clause) : TestCase :=
  { t with
    givens := givens
    expects := expects }

/-
  The reports of tests that an error ends, by what is reported
  of the tests cut off before the error:
    * before a `given` line, without rules and expectations: the
      environment is left, and nothing else is reported;
    * before a rule, without expectations: the firings and the
      environment are left;
    * before an expectation: all of it is left.
-/
inductive Interrupted
    (reported : List Rule → TestCase → TestReport)
    (rules : List Rule)
    (t : TestCase)
    (e : EvalError) : TestReport → Prop where
  | given
      {front back : List Clause}
      {clause : Clause}
      {env : Environment}
      (hGivens : t.givens = front ++ clause :: back)
      (hBefore :
        reported [] (t.cut front []) =
          ⟨t.name, [], [], env, none⟩)
      (hError : clause.assignments = .error e) :
      Interrupted reported rules t e
        ⟨t.name, [], [], env, some e⟩
  | rule
      {front back : List Rule}
      {r : Rule}
      {firings : List Firing}
      {env : Environment}
      (hRules : rules = front ++ r :: back)
      (hBefore :
        reported front (t.cut t.givens []) =
          ⟨t.name, firings, [], env, none⟩)
      (hError : r.Fails firings env e) :
      Interrupted reported rules t e
        ⟨t.name, firings, [], env, some e⟩
  | expect
      {front back : List Clause}
      {clause : Clause}
      {firings : List Firing}
      {outcomes : List ExpectOutcome}
      {env : Environment}
      (hExpects : t.expects = front ++ clause :: back)
      (hBefore :
        reported rules (t.cut t.givens front) =
          ⟨t.name, firings, outcomes, env, none⟩)
      (hError : clause.expression = .error e) :
      Interrupted reported rules t e
        ⟨t.name, firings, outcomes, env, some e⟩

namespace Direct

variable {rs : List Rule}
variable {t : TestCase}
variable {e : EvalError}
variable {broken : TestReport}

/- What is reported of an interrupted test. -/
theorem test_of_interrupted
    (h : Interrupted test rs t e broken) :
    test rs t = broken := by
  cases h with
  | @given front back clause env hLines hBefore hError =>
      rcases test_eq_iff.mp hBefore with
        ⟨⟨start, hFront, hNone⟩, _⟩
      cases hNone
      have hGivens : givens t.givens .empty = (env, some e) :=
        givens_eq_error_iff.mpr
          ⟨front, clause, back, hLines, hFront, hError⟩
      exact test_of_givens_error hGivens
  | @rule front back r firings env hList hBefore hError =>
      rcases test_eq_iff.mp hBefore with
        ⟨⟨start, hStart, hFront⟩, _⟩
      have hGivens : givens t.givens .empty = (start, none) :=
        hStart
      have hRules :
          rules rs ⟨[], start⟩ = (⟨firings, env⟩, some e) :=
        rules_eq_error_iff.mpr
          ⟨front, r, back, hList, hFront, hError⟩
      exact test_of_rules_error hGivens hRules
  | @expect front back clause firings outcomes env hLines
      hBefore hError =>
      rcases test_eq_iff.mp hBefore with
        ⟨⟨start, hStart, hRules⟩, hFront⟩
      have hGivens : givens t.givens .empty = (start, none) :=
        hStart
      have hExpects :
          expects env t.expects = (outcomes, some e) :=
        expects_eq_error_iff.mpr
          ⟨front, clause, back, hLines, hFront, hError⟩
      rw [test_of_rules hGivens hRules, hExpects]

/- Every test with an error has been interrupted. -/
theorem interrupted_of_test
    (h : (test rs t).error = some e) :
    Interrupted test rs t e (test rs t) := by
  rcases hGivens : givens t.givens .empty with ⟨start, error⟩
  cases error with
  | some found =>
      rw [test_of_givens_error hGivens] at h ⊢
      cases h
      rcases givens_eq_error_iff.mp hGivens with
        ⟨front, clause, back, hLines, hFront, hError⟩
      have hReaches :
          Reaches [] (t.cut front []) ⟨[], start⟩ :=
        ⟨start, hFront, rfl⟩
      exact
        .given hLines (test_eq_iff.mpr ⟨hReaches, rfl⟩) hError
  | none =>
      rcases hRules : rules rs ⟨[], start⟩ with ⟨state, error⟩
      cases error with
      | some found =>
          rw [test_of_rules_error hGivens hRules] at h ⊢
          cases h
          rcases rules_eq_error_iff.mp hRules with
            ⟨front, r, back, hList, hFront, hError⟩
          have hReaches :
              Reaches front (t.cut t.givens []) state :=
            ⟨start, hGivens, hFront⟩
          exact
            .rule hList (test_eq_iff.mpr ⟨hReaches, rfl⟩)
              hError
      | none =>
          rcases hExpects :
              expects state.environment t.expects with
            ⟨outcomes, error⟩
          rw [test_of_rules hGivens hRules, hExpects] at h ⊢
          cases h
          rcases expects_eq_error_iff.mp hExpects with
            ⟨front, clause, back, hLines, hFront, hError⟩
          have hReaches :
              Reaches rs (t.cut t.givens front) state :=
            ⟨start, hGivens, hRules⟩
          exact
            .expect hLines
              (test_eq_iff.mpr ⟨hReaches, hFront⟩) hError

/- So the reports with an error are those interrupted. -/
theorem interrupted_iff :
    Interrupted test rs t e broken ↔
      test rs t = broken ∧ broken.error = some e := by
  constructor
  · intro h
    refine ⟨test_of_interrupted h, ?_⟩
    cases h with
    | given hGivens hBefore hError => rfl
    | rule hRules hBefore hError => rfl
    | expect hExpects hBefore hError => rfl
  · rintro ⟨rfl, hError⟩
    exact interrupted_of_test hError

end Direct

------------------------------------------------------------
-- Runs
------------------------------------------------------------

namespace Runner

/- What a runner reports of one test. -/
def report
    (runner : Runner)
    (rules : List Rule)
    (t : TestCase) : TestReport :=
  let done := runner.test rules t
  { done.2.report with error := done.1 }

/- With a faithful memo it is the report of a direct test. -/
theorem report_eq_direct
    {runner : Runner}
    (hMemo : runner.memo.Faithful) :
    runner.report = Direct.test := by
  funext rules t
  have hTest := runner.test_ends rules t hMemo
  simp only [report, hTest.error, hTest.report]

/-
  A run that isolates failures, whatever was run before: a test
  ends with an error if and only if it gets to a clause or a
  rule that has one.  Its report is then the error, and what any
  runner reports of the test cut off there.
-/
theorem failures_leave_no_trace
    (isolates : Bool)
    (history history' : List (Bool × Node))
    (program : Node) :
    ∃ report : RunReport,
      ((resumed true history).run program).result =
          .ok report ∧
        List.Forall₂
          (fun t tested =>
            ∀ e broken,
              Interrupted
                  (resumed isolates history').report
                  program.rules t e broken ↔
                tested = broken ∧ broken.error = some e)
          program.tests report.tests := by
  have hReport :
      (resumed isolates history').report = Direct.test :=
    report_eq_direct (Memo.faithful_afterRuns history')
  refine
    ⟨⟨program.tests.map (Direct.test program.rules)⟩, ?_, ?_⟩
  · rw [resumed_result, Direct.run, Direct.tests_isolated]
    rfl
  · rw [hReport, List.forall₂_map_right_iff,
      List.forall₂_same]
    intro t hT e broken
    exact Direct.interrupted_iff

/- Of a line that breaks off, no assignment is made. -/
example :
    let whole : Clause := ⟨"c = 2", ⟨2, 9⟩⟩
    let broken : Clause := ⟨"a = 1, b = 1 +", ⟨3, 9⟩⟩
    let t : TestCase := ⟨"t", [whole, broken], [], ⟨1, 1⟩⟩
    ((fresh true).report [] t).environment.keys = ["c"] := by
  decide +kernel

end Runner

end Rulebook
