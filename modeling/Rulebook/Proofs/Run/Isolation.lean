import Rulebook.Proofs.Run.Simulation

/-
  Runs that isolate failures report every test; runs that do
  not agree with them up to the first error.  Neither depends on
  what was run before.

  Key definitions include:
    * `Memo.afterRuns`
    * `Runner.resumed`

  Main results:
    * `Memo.faithful_afterRuns`
    * `Runner.resumed_result`
    * `Direct.tests_isolated`
    * `Direct.tests_strict_eq_ok_iff`
    * `Direct.tests_strict_eq_error_iff`
    * `Runner.strict_agrees_with_isolated`
-/

namespace Rulebook

------------------------------------------------------------
-- Earlier Runs
------------------------------------------------------------

/-
  The memo that runs leave, one after the other.  Each of them
  isolates failures or does not, and ends in any way.
-/
def Memo.afterRuns (history : List (Bool × Node)) : Memo :=
  history.foldl
    (fun memo earlier =>
      let runner : Runner := ⟨earlier.1, memo⟩
      (runner.run earlier.2).runner.memo)
    .empty

/- Whatever was run before, the memo can be relied on. -/
theorem Memo.faithful_afterRuns
    (history : List (Bool × Node)) :
    (afterRuns history).Faithful := by
  unfold afterRuns
  apply List.foldlRecOn history _ faithful_empty
  intro memo hMemo earlier hEarlier
  exact (Runner.run_result _ earlier.2 hMemo).2.2

namespace Runner

/- A runner that goes on with what earlier runs left. -/
def resumed
    (isolates : Bool)
    (history : List (Bool × Node)) : Runner :=
  ⟨isolates, .afterRuns history⟩

/- What was run before does not show in a result. -/
theorem resumed_result
    (isolates : Bool)
    (history : List (Bool × Node))
    (program : Node) :
    ((resumed isolates history).run program).result =
      Direct.run isolates program :=
  (run_result _ program (Memo.faithful_afterRuns history)).1

end Runner

------------------------------------------------------------
-- Direct Runs
------------------------------------------------------------

namespace Direct

/- A run that isolates failures reports every test. -/
theorem tests_isolated
    (rs : List Rule)
    (ts : List TestCase) :
    tests true rs ts = .ok (ts.map (test rs)) := by
  induction ts with
  | nil => rfl
  | cons t ts ih =>
      cases hError : (test rs t).error with
      | none => simp [tests, hError, ih, Except.map]
      | some e => simp [tests, hError, ih, Except.map]

/-
  A run that does not isolate failures gives the first error of
  the reports, and all the reports if there is none.
-/
theorem tests_strict
    (rs : List Rule)
    (ts : List TestCase) :
    tests false rs ts =
      match (ts.map (test rs)).findSome? (·.error) with
      | some e => .error e
      | none => .ok (ts.map (test rs)) := by
  induction ts with
  | nil => rfl
  | cons t ts ih =>
      cases hError : (test rs t).error with
      | some e => simp [tests, hError]
      | none =>
          simp only [tests, hError, ih, List.map_cons,
            List.findSome?_cons]
          cases
              (ts.map (test rs)).findSome? (·.error) with
          | none => rfl
          | some e => rfl

/- It gives all the reports if and only if none has an error. -/
theorem tests_strict_eq_ok_iff
    {rs : List Rule}
    {ts : List TestCase}
    {reports : List TestReport} :
    tests false rs ts = .ok reports ↔
      (∀ report ∈ ts.map (test rs), report.error = none) ∧
        reports = ts.map (test rs) := by
  rw [tests_strict, ← List.findSome?_eq_none_iff]
  cases (ts.map (test rs)).findSome? (·.error) with
  | none =>
      simp only [Except.ok.injEq, true_and]
      exact eq_comm
  | some e => simp

/- It gives the error of the first report that has one. -/
theorem tests_strict_eq_error_iff
    {rs : List Rule}
    {ts : List TestCase}
    {e : EvalError} :
    tests false rs ts = .error e ↔
      ∃ front report back,
        ts.map (test rs) = front ++ report :: back ∧
          report.error = some e ∧
          ∀ other ∈ front, other.error = none := by
  rw [tests_strict, ← List.findSome?_eq_some_iff]
  cases (ts.map (test rs)).findSome? (·.error) with
  | none => simp
  | some found => simp

/- Every report that comes out is that of a direct test. -/
theorem tests_of_run
    {isolates : Bool}
    {program : Node}
    {report : RunReport}
    (h : run isolates program = .ok report) :
    report.tests =
      program.tests.map (test program.rules) := by
  unfold run at h
  rcases map_eq_ok_iff.mp h with ⟨reports, hTests, rfl⟩
  cases isolates with
  | true =>
      rw [tests_isolated] at hTests
      cases hTests
      rfl
  | false => exact (tests_strict_eq_ok_iff.mp hTests).2

end Direct

------------------------------------------------------------
-- Reports
------------------------------------------------------------

/- A test with an error has not passed. -/
theorem TestReport.passed_eq_false_of_error
    {report : TestReport}
    (h : report.error.isSome = true) :
    report.passed = false := by
  have hNone : report.error.isNone = false := by
    simpa using h
  simp [passed, hNone]

/- All tests with an error are among those that failed. -/
theorem RunReport.countP_error_le_failed
    (report : RunReport) :
    report.tests.countP (·.error.isSome) ≤ report.failed := by
  have hFailed :
      report.tests.countP (·.error.isSome) ≤
        report.tests.countP (fun t => ¬ t.passed) := by
    apply List.countP_mono_left
    intro t hT hError
    simpa using TestReport.passed_eq_false_of_error hError
  have hLength :=
    List.length_eq_countP_add_countP
      (fun t : TestReport => t.passed) (l := report.tests)
  unfold failed passed
  omega

------------------------------------------------------------
-- Both Kinds Of Runs
------------------------------------------------------------

/-
  Whatever was run before, a run that isolates failures reports
  every test, each as it goes by itself.  A run that does not
  isolate them gives the same report if no test has an error,
  and otherwise the error of the first test that has one.
-/
theorem Runner.strict_agrees_with_isolated
    (history history' : List (Bool × Node))
    (program : Node) :
    ∃ report : RunReport,
      ((resumed true history).run program).result =
          .ok report ∧
        report.tests =
          program.tests.map (Direct.test program.rules) ∧
        (∀ other,
          ((resumed false history').run program).result =
              .ok other ↔
            (∀ t ∈ report.tests, t.error = none) ∧
              other = report) ∧
        (∀ e,
          ((resumed false history').run program).result =
              .error e ↔
            ∃ front t back,
              report.tests = front ++ t :: back ∧
                t.error = some e ∧
                ∀ u ∈ front, u.error = none) ∧
        (∀ t ∈ report.tests,
          t.error.isSome = true → t.passed = false) ∧
        report.tests.countP (·.error.isSome) ≤
          report.failed := by
  refine
    ⟨⟨program.tests.map (Direct.test program.rules)⟩, ?_, rfl,
      ?_, ?_, fun t _ => TestReport.passed_eq_false_of_error,
      RunReport.countP_error_le_failed _⟩
  · rw [resumed_result, Direct.run, Direct.tests_isolated]
    rfl
  · rintro ⟨reports⟩
    rw [resumed_result, Direct.run, map_eq_ok_iff]
    simp only [Direct.tests_strict_eq_ok_iff,
      RunReport.mk.injEq, exists_eq_right]
  · intro e
    rw [resumed_result, Direct.run, map_eq_error_iff]
    exact Direct.tests_strict_eq_error_iff

end Rulebook
