import Rulebook.Run.Step

/-
  Runs of programs: every test against all the rules.

  Key definitions include:
    * `Runner`
    * `Runner.tests`
    * `Runner.run`
-/

namespace Rulebook

/-
  A runner keeps its memo from one program to the next.  It
  isolates failures if an error ends its test only, and not the
  whole run.
-/
structure Runner where
  isolates : Bool
  memo : Memo

/- A result, what was reported, and the runner after it. -/
structure Ran (α : Type) where
  result : Except EvalError α
  events : List Event
  runner : Runner

namespace Runner

/- A runner with an empty memo. -/
def fresh (isolates : Bool) : Runner :=
  ⟨isolates, .empty⟩

/- Run one test: its error, and how far it got. -/
def test
    (runner : Runner)
    (rules : List Rule)
    (t : TestCase) : Option EvalError × Progress :=
  Step.test rules t
    { memo := runner.memo
      events := [.testStarted t.name]
      report := .blank t.name }

/- Run tests in order. -/
def tests
    (rules : List Rule) :
    List TestCase → Runner → Ran (List TestReport)
  | [], runner => ⟨.ok [], [], runner⟩
  | t :: ts, runner =>
      let (error, p) := runner.test rules t
      let after := { runner with memo := p.memo }
      match error with
      | none =>
          let others := tests rules ts after
          { others with
            result := others.result.map (p.report :: ·)
            events := p.events ++ others.events }
      | some e =>
          if runner.isolates then
            let others := tests rules ts after
            { others with
              result :=
                others.result.map
                  ({ p.report with error := some e } :: ·)
              events := p.events ++ .aborted e :: others.events }
          else
            ⟨.error e, p.events, after⟩

/- Run all tests of a program. -/
def run
    (runner : Runner)
    (program : Node) : Ran RunReport :=
  let ran := tests program.rules program.tests runner
  match ran.result with
  | .ok reports =>
      let report : RunReport := ⟨reports⟩
      { ran with
        result := .ok report
        events :=
          ran.events ++
            [.finished report.passed report.failed] }
  | .error e => { ran with result := .error e }

end Runner

end Rulebook
