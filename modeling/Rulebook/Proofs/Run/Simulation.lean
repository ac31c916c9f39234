import Rulebook.Proofs.Memo
import Rulebook.Proofs.Results
import Rulebook.Proofs.Run.Direct
import Rulebook.Run

/-
  Runs with a memo follow the direct runs step by step.  What
  ties them together is that the memo stays faithful, also
  where an error stops a test or the whole run.

  Key definitions include:
    * `Step.Ends`
    * `Runner.results`

  Main results:
    * `Step.ends_test`
    * `Runner.run_result`
    * `Runner.results_eq_fresh_and_direct`
-/

namespace Rulebook

------------------------------------------------------------
-- Steps
------------------------------------------------------------

namespace Step

/-
  What a step came to: its error, the report so far, and a memo
  that can be relied on.  The events do not matter here.
-/
structure Ends
    (done : Option EvalError × Progress)
    (error : Option EvalError)
    (report : TestReport) : Prop where
  error : done.1 = error
  report : done.2.report = report
  faithful : done.2.memo.Faithful

variable {p : Progress}
variable {first second : Step}
variable {report report' : TestReport}
variable {error : Option EvalError}

/- Nothing happens behind an error. -/
theorem Ends.andThen_error
    {e : EvalError}
    (h : Ends (first p) (some e) report) :
    Ends (first.andThen second p) (some e) report := by
  rcases hFirst : first p with ⟨found, q⟩
  rw [hFirst] at h
  have hFound : found = some e := h.error
  subst hFound
  simpa [andThen, hFirst] using h

/- Without an error the second step goes on from the first. -/
theorem Ends.andThen
    (h : Ends (first p) none report)
    (hSecond :
      ∀ q : Progress,
        q.report = report → q.memo.Faithful →
          Ends (second q) error report') :
    Ends (first.andThen second p) error report' := by
  rcases hFirst : first p with ⟨found, q⟩
  rw [hFirst] at h
  have hFound : found = none := h.error
  subst hFound
  simpa [Step.andThen, hFirst] using
    hSecond q h.report h.faithful

/- The expression of a clause is the one compiled anew. -/
theorem ends_withExpression
    {clause : Clause}
    {next : Expr → Step}
    {e : Expr}
    (hMemo : p.memo.Faithful)
    (hClause : clause.expression = .ok e)
    (hNext :
      ∀ q : Progress,
        q.report = p.report → q.memo.Faithful →
          Ends (next e q) error report) :
    Ends (withExpression clause next p) error report := by
  have hResult := hMemo.expression_result clause.text
  rw [mapError_eq_ok_iff.mp hClause] at hResult
  simp only [withExpression, hResult]
  exact hNext _ rfl (hMemo.expression_memo clause.text)

theorem ends_withExpression_error
    {clause : Clause}
    {next : Expr → Step}
    {e : EvalError}
    (hMemo : p.memo.Faithful)
    (hClause : clause.expression = .error e) :
    Ends (withExpression clause next p) (some e)
      p.report := by
  rcases mapError_eq_error_iff.mp hClause with
    ⟨found, hCompiled, hLocated⟩
  have hResult := hMemo.expression_result clause.text
  rw [hCompiled] at hResult
  simp only [withExpression, hResult, hLocated]
  exact ⟨rfl, rfl, hMemo.expression_memo clause.text⟩

------------------------------------------------------------
-- Given Lines
------------------------------------------------------------

theorem ends_given
    {clause : Clause}
    {list : List Assignment}
    (hMemo : p.memo.Faithful)
    (hClause : clause.assignments = .ok list) :
    Ends (given clause p) none
      { p.report with
        environment := p.report.environment.assign list } := by
  have hResult := hMemo.assignments_result clause.text
  rw [mapError_eq_ok_iff.mp hClause] at hResult
  simp only [given, hResult]
  exact ⟨rfl, rfl, hMemo.assignments_memo clause.text⟩

theorem ends_given_error
    {clause : Clause}
    {e : EvalError}
    (hMemo : p.memo.Faithful)
    (hClause : clause.assignments = .error e) :
    Ends (given clause p) (some e) p.report := by
  rcases mapError_eq_error_iff.mp hClause with
    ⟨found, hCompiled, hLocated⟩
  have hResult := hMemo.assignments_result clause.text
  rw [hCompiled] at hResult
  simp only [given, hResult, hLocated]
  exact ⟨rfl, rfl, hMemo.assignments_memo clause.text⟩

/- All given lines build up the environment of a direct run. -/
theorem ends_givens
    (clauses : List Clause)
    (hMemo : p.memo.Faithful) :
    Ends (each given clauses p)
      (Direct.givens clauses p.report.environment).2
      { p.report with
        environment :=
          (Direct.givens clauses
            p.report.environment).1 } := by
  induction clauses generalizing p with
  | nil => exact ⟨rfl, rfl, hMemo⟩
  | cons clause clauses ih =>
      cases hClause : clause.assignments with
      | ok list =>
          simp only [each, Direct.givens, hClause]
          apply (ends_given hMemo hClause).andThen
          intro q hReport hFaithful
          simpa [hReport] using ih hFaithful
      | error e =>
          simp only [each, Direct.givens, hClause]
          exact (ends_given_error hMemo hClause).andThen_error

------------------------------------------------------------
-- Rules
------------------------------------------------------------

/- The report of a test with its firings so far. -/
private def withState
    (report : TestReport)
    (state : Direct.State) : TestReport :=
  { report with
    firings := state.firings
    environment := state.environment }

/- What the rules see of a test. -/
private def stateOf (p : Progress) : Direct.State :=
  ⟨p.report.firings, p.report.environment⟩

private theorem hasAssigned_iff
    (target : FieldPath) :
    p.report.hasAssigned target = true ↔
      target ∈ (stateOf p).assigned := by
  simp [TestReport.hasAssigned, stateOf,
    Direct.State.assigned]

/- A rule does what it does in a direct run. -/
theorem ends_rule
    (r : Rule)
    (hMemo : p.memo.Faithful) :
    match
      Direct.firing? r (stateOf p).assigned
        (stateOf p).environment with
    | .error e => Ends (rule r p) (some e) p.report
    | .ok none => Ends (rule r p) none p.report
    | .ok (some firing) =>
        Ends (rule r p) none
          (withState p.report ((stateOf p).fire firing)) := by
  have hEnv : (stateOf p).environment =
      p.report.environment := rfl
  unfold Direct.firing? rule
  rw [hEnv]
  cases hTarget : FieldPath.ofText? r.target with
  | none => exact ⟨rfl, rfl, hMemo⟩
  | some target =>
      by_cases hDone : target ∈ (stateOf p).assigned
      · have hAssigned := (hasAssigned_iff target).mpr hDone
        simp only [hDone, if_true, hAssigned]
        exact ⟨rfl, rfl, hMemo⟩
      · have hOpen : p.report.hasAssigned target = false := by
          simpa using mt (hasAssigned_iff target).mp hDone
        simp only [hDone, if_false, hOpen,
          Bool.false_eq_true]
        cases hCondition : r.condition.expression with
        | error e =>
            exact ends_withExpression_error hMemo hCondition
        | ok condition =>
            cases hHolds :
                (condition.eval
                  p.report.environment).isTruthy with
            | false =>
                simp only [Bool.false_eq_true, if_false, hHolds]
                apply ends_withExpression hMemo hCondition
                intro q hReport hFaithful
                simp only [Progress.value, hReport, hHolds,
                  Bool.false_eq_true, if_false]
                exact ⟨rfl, hReport, hFaithful⟩
            | true =>
                cases hValue : r.value.expression with
                | error e =>
                    simp only [if_true, hHolds]
                    apply ends_withExpression hMemo hCondition
                    intro q hReport hFaithful
                    simp only [Progress.value, hReport, hHolds,
                      if_true]
                    rw [← hReport]
                    exact ends_withExpression_error hFaithful
                      hValue
                | ok value =>
                    simp only [if_true, hHolds]
                    apply ends_withExpression hMemo hCondition
                    intro q hReport hFaithful
                    simp only [Progress.value, hReport, hHolds,
                      if_true]
                    apply ends_withExpression hFaithful hValue
                    intro last hLast hLastFaithful
                    rw [hReport] at hLast
                    refine ⟨rfl, ?_, hLastFaithful⟩
                    simp [Progress.fire, hLast, withState,
                      stateOf, Direct.State.fire]

/- All rules make the firings of a direct run. -/
theorem ends_rules
    (rs : List Rule)
    (hMemo : p.memo.Faithful) :
    Ends (each rule rs p)
      (Direct.rules rs (stateOf p)).2
      (withState p.report
        (Direct.rules rs (stateOf p)).1) := by
  induction rs generalizing p with
  | nil => exact ⟨rfl, rfl, hMemo⟩
  | cons r rs ih =>
      have hRule := ends_rule r hMemo
      simp only [each, Direct.rules]
      cases hFiring :
          Direct.firing? r (stateOf p).assigned
            (stateOf p).environment with
      | error e =>
          rw [hFiring] at hRule
          exact hRule.andThen_error
      | ok outcome =>
          rw [hFiring] at hRule
          cases outcome with
          | none =>
              apply hRule.andThen
              intro q hReport hFaithful
              simpa [stateOf, hReport] using ih hFaithful
          | some firing =>
              apply hRule.andThen
              intro q hReport hFaithful
              simpa [stateOf, hReport, withState] using
                ih hFaithful

------------------------------------------------------------
-- Expectations
------------------------------------------------------------

/- All expectations have the outcomes of a direct run. -/
theorem ends_expects
    (clauses : List Clause)
    (hMemo : p.memo.Faithful) :
    Ends (each expect clauses p)
      (Direct.expects p.report.environment clauses).2
      { p.report with
        expects :=
          p.report.expects ++
            (Direct.expects p.report.environment
              clauses).1 } := by
  induction clauses generalizing p with
  | nil => exact ⟨rfl, by simp [each, Direct.expects], hMemo⟩
  | cons clause clauses ih =>
      cases hClause : clause.expression with
      | error e =>
          simp only [each, Direct.expects, hClause,
            List.append_nil]
          exact
            (ends_withExpression_error hMemo
              hClause).andThen_error
      | ok e =>
          have hStep :
              Ends (expect clause p) none
                { p.report with
                  expects :=
                    p.report.expects ++
                      [⟨clause.text,
                        (e.eval
                          p.report.environment).isTruthy⟩] } := by
            apply ends_withExpression hMemo hClause
            intro q hReport hFaithful
            refine ⟨rfl, ?_, hFaithful⟩
            simp [Progress.note, Progress.value, hReport]
          simp only [each, Direct.expects, hClause]
          apply hStep.andThen
          intro q hReport hFaithful
          simpa [hReport] using ih hFaithful

------------------------------------------------------------
-- Tests
------------------------------------------------------------

/- A test ends like a direct one, and reports the same. -/
theorem ends_test
    (rs : List Rule)
    (t : TestCase)
    (hMemo : p.memo.Faithful)
    (hBlank : p.report = .blank t.name) :
    Ends (test rs t p)
      (Direct.test rs t).error
      { Direct.test rs t with error := none } := by
  have hGivens := ends_givens t.givens hMemo
  rw [hBlank] at hGivens
  simp only [TestReport.blank] at hGivens
  rcases hEnv : Direct.givens t.givens .empty with
    ⟨env, found⟩
  rw [hEnv] at hGivens
  cases found with
  | some e =>
      rw [Direct.test_of_givens_error hEnv]
      exact hGivens.andThen_error
  | none =>
      apply hGivens.andThen
      intro q hReport hFaithful
      have hRules := ends_rules rs hFaithful
      simp only [stateOf, hReport, withState] at hRules
      rcases hState : Direct.rules rs ⟨[], env⟩ with
        ⟨state, found⟩
      rw [hState] at hRules
      cases found with
      | some e =>
          rw [Direct.test_of_rules_error hEnv hState]
          exact hRules.andThen_error
      | none =>
          rw [Direct.test_of_rules hEnv hState]
          apply hRules.andThen
          intro last hLast hLastFaithful
          simpa [hLast] using
            ends_expects t.expects hLastFaithful

end Step

------------------------------------------------------------
-- Runs
------------------------------------------------------------

namespace Runner

/- One test, run with a faithful memo. -/
theorem test_ends
    (runner : Runner)
    (rs : List Rule)
    (t : TestCase)
    (hMemo : runner.memo.Faithful) :
    Step.Ends (runner.test rs t)
      (Direct.test rs t).error
      { Direct.test rs t with error := none } :=
  Step.ends_test rs t hMemo rfl

/-
  Tests with a faithful memo report like direct ones, and leave
  a faithful memo, however they end.
-/
theorem tests_result
    (rs : List Rule)
    (ts : List TestCase)
    (runner : Runner)
    (hMemo : runner.memo.Faithful) :
    (tests rs ts runner).result =
        Direct.tests runner.isolates rs ts ∧
      (tests rs ts runner).runner.isolates =
        runner.isolates ∧
      (tests rs ts runner).runner.memo.Faithful := by
  induction ts generalizing runner with
  | nil => exact ⟨rfl, rfl, hMemo⟩
  | cons t ts ih =>
      have hTest := runner.test_ends rs t hMemo
      rcases hDone : runner.test rs t with ⟨error, p⟩
      rw [hDone] at hTest
      have hOthers :=
        ih { runner with memo := p.memo } hTest.faithful
      have hError : error = (Direct.test rs t).error :=
        hTest.error
      have hReport := hTest.report
      simp only [tests, Direct.tests, hDone]
      rw [← hError]
      cases error with
      | none =>
          have hWhole : p.report = Direct.test rs t := by
            rw [hReport, hError]
          simp only [hOthers.1, hWhole, true_and]
          exact hOthers.2
      | some e =>
          have hWhole :
              { p.report with error := some e } =
                Direct.test rs t := by
            rw [hReport, hError]
          cases hIsolates : runner.isolates with
          | true =>
              simp only [hIsolates] at hOthers
              simp only [if_true, hOthers.1, hWhole,
                true_and]
              exact hOthers.2
          | false => exact ⟨rfl, rfl, hTest.faithful⟩

/- A run with a faithful memo is a direct run. -/
theorem run_result
    (runner : Runner)
    (program : Node)
    (hMemo : runner.memo.Faithful) :
    (runner.run program).result =
        Direct.run runner.isolates program ∧
      (runner.run program).runner.isolates =
        runner.isolates ∧
      (runner.run program).runner.memo.Faithful := by
  have hTests :=
    tests_result program.rules program.tests runner hMemo
  unfold Direct.run
  rw [← hTests.1]
  cases hResult :
      (tests program.rules program.tests runner).result with
  | ok reports =>
      simp only [run, hResult]
      exact ⟨rfl, hTests.2⟩
  | error e =>
      simp only [run, hResult]
      exact ⟨rfl, hTests.2⟩

------------------------------------------------------------
-- Sequences Of Runs
------------------------------------------------------------

/-
  The results of one runner on programs, one after the other.
  The memo that a run leaves, however it ends, is the memo that
  the next run begins with.
-/
def results :
    List Node → Runner → List (Except EvalError RunReport)
  | [], _ => []
  | program :: programs, runner =>
      let ran := runner.run program
      ran.result :: results programs ran.runner

/- Results with a faithful memo are those of direct runs. -/
theorem results_eq_direct
    (programs : List Node)
    (runner : Runner)
    (hMemo : runner.memo.Faithful) :
    runner.results programs =
      programs.map (Direct.run runner.isolates) := by
  induction programs generalizing runner with
  | nil => rfl
  | cons program programs ih =>
      have hRun := run_result runner program hMemo
      have hOthers :=
        ih (runner.run program).runner hRun.2.2
      simp only [results, List.map_cons, hRun.1, hOthers,
        hRun.2.1]

/-
  Whatever a runner has run before, a program gives what it
  gives a fresh runner, and this is what it gives when every
  text is compiled anew at the moment it is reached.
-/
theorem results_eq_fresh_and_direct
    (isolates : Bool)
    (programs : List Node) :
    (fresh isolates).results programs =
        programs.map
          (fun program =>
            ((fresh isolates).run program).result) ∧
      (fresh isolates).results programs =
        programs.map (Direct.run isolates) := by
  have hFresh : (fresh isolates).memo.Faithful :=
    Memo.faithful_empty
  have hDirect := results_eq_direct programs _ hFresh
  refine ⟨?_, hDirect⟩
  rw [hDirect]
  apply List.map_congr_left
  intro program hProgram
  exact (run_result _ program hFresh).1.symm

end Runner

end Rulebook
