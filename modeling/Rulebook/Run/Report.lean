import Rulebook.EvalError
import Rulebook.Value.Text

/-
  Reports of a run and their text.

  Key definitions include:
    * `Firing`
    * `ExpectOutcome`
    * `TestReport`
    * `RunReport`
    * `RunReport.text`
-/

namespace Rulebook

/- A rule that held, with the value that it wrote. -/
structure Firing where
  rule : String
  target : FieldPath
  value : Value

/- An expectation, and whether it was met. -/
structure ExpectOutcome where
  expression : String
  passed : Bool
deriving DecidableEq, Repr

/-
  What a test did: as far as it got, if it ended with an error.
-/
structure TestReport where
  name : String
  firings : List Firing
  expects : List ExpectOutcome
  environment : Environment
  error : Option EvalError

namespace TestReport

/- The report of a test that has not begun. -/
def blank (name : String) : TestReport :=
  ⟨name, [], [], .empty, none⟩

/- A test passes if it has no error and meets all it expects. -/
def passed (report : TestReport) : Bool :=
  report.error.isNone && report.expects.all (·.passed)

/- The test has a firing that wrote to a path. -/
def hasAssigned
    (report : TestReport)
    (target : FieldPath) : Bool :=
  report.firings.any (·.target = target)

end TestReport

/- The reports of all tests in the order of the source. -/
structure RunReport where
  tests : List TestReport

namespace RunReport

/- The number of tests that passed. -/
def passed (report : RunReport) : Nat :=
  report.tests.countP (·.passed)

/- The number of tests that did not pass. -/
def failed (report : RunReport) : Nat :=
  report.tests.length - report.passed

/- No test failed. -/
def allPassed (report : RunReport) : Bool :=
  report.failed == 0

end RunReport

------------------------------------------------------------
-- Text
------------------------------------------------------------

/- The line of a firing. -/
def Firing.line (f : Firing) : String :=
  "  ✓ rule \"" ++ f.rule ++ "\" applied → " ++
    f.target.text ++ " = " ++ f.value.text

/- The line of an expectation. -/
def ExpectOutcome.line (outcome : ExpectOutcome) : String :=
  if outcome.passed then
    "  ✓ " ++ outcome.expression ++ " → PASS"
  else
    "  ✗ " ++ outcome.expression ++ " → FAIL"

/- The lines of a test. -/
def TestReport.lines (report : TestReport) : List String :=
  ["Test: " ++ report.name] ++
    report.firings.map (·.line) ++
    report.expects.map (·.line) ++
    (report.error.map fun e =>
      "  ! error: " ++ e.message).toList ++
    ["→ RESULT: " ++ if report.passed then "PASS" else "FAIL"]

namespace RunReport

/- The lines of a run. -/
def lines (report : RunReport) : List String :=
  "== BizSpec :: Run Tests ==" ::
    if report.tests.isEmpty then ["(no tests)"]
    else
      report.tests.flatMap (fun test => "" :: test.lines) ++
        ["",
         "Summary: " ++ report.passed.repr ++ " PASS, " ++
           report.failed.repr ++ " FAIL"]

/- The text of a run: its lines, each with a line end. -/
def text (report : RunReport) : String :=
  String.join (report.lines.map (· ++ "\n"))

end RunReport

end Rulebook
