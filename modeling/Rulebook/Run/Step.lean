import Rulebook.Memo
import Rulebook.Program.View
import Rulebook.Run.Report

/-
  The steps of a test: `given` lines fill the environment, rules
  write to it, and expectations look at it.  A step that meets
  an error stops the test and leaves what was done before.

  Key definitions include:
    * `Progress`
    * `Step`
    * `Step.andThen`
    * `Step.each`
    * `Step.given`
    * `Step.rule`
    * `Step.expect`
    * `Step.test`
-/

namespace Rulebook

------------------------------------------------------------
-- Progress
------------------------------------------------------------

/- How far a test has got. -/
structure Progress where
  memo : Memo
  events : List Event
  report : TestReport

namespace Progress

/- Keep what a look-up in the memo left. -/
def keep
    {α : Type}
    (p : Progress)
    (recalled : Recalled α) : Progress :=
  { p with
    memo := recalled.memo
    events := p.events ++ recalled.events }

/- Give the fields of assignments their values. -/
def assign
    (p : Progress)
    (assignments : List Assignment) : Progress :=
  { p with
    report :=
      { p.report with
        environment :=
          p.report.environment.assign assignments } }

/- Write the value of a rule that held. -/
def fire
    (p : Progress)
    (firing : Firing) : Progress :=
  { p with
    events :=
      p.events ++
        [.fired firing.rule firing.target firing.value]
    report :=
      { p.report with
        firings := p.report.firings ++ [firing]
        environment :=
          p.report.environment.set firing.target
            firing.value } }

/- Note whether an expectation was met. -/
def note
    (p : Progress)
    (outcome : ExpectOutcome) : Progress :=
  { p with
    report :=
      { p.report with
        expects := p.report.expects ++ [outcome] } }

/- The value of an expression in the environment so far. -/
def value
    (p : Progress)
    (e : Expr) : Value :=
  e.eval p.report.environment

end Progress

------------------------------------------------------------
-- Steps
------------------------------------------------------------

/- A step goes on, or stops with an error. -/
abbrev Step : Type :=
  Progress → Option EvalError × Progress

namespace Step

/- One step behind another. -/
def andThen (first second : Step) : Step :=
  fun p =>
    match first p with
    | (none, p) => second p
    | (some e, p) => (some e, p)

/- A step for each member of a list, in order. -/
def each
    {α : Type}
    (step : α → Step) : List α → Step
  | [] => fun p => (none, p)
  | x :: xs => (step x).andThen (each step xs)

/- Go on with the expression of a clause. -/
def withExpression
    (clause : Clause)
    (next : Expr → Step) : Step :=
  fun p =>
    let recalled := p.memo.expression clause.text
    match recalled.result with
    | .ok e => next e (p.keep recalled)
    | .error error =>
        (some (error.locate clause.position),
          p.keep recalled)

/- A `given` line, which is carried out as a whole. -/
def given (clause : Clause) : Step :=
  fun p =>
    let recalled := p.memo.assignments clause.text
    match recalled.result with
    | .ok list => (none, (p.keep recalled).assign list)
    | .error error =>
        (some (error.locate clause.position),
          p.keep recalled)

/-
  A rule.  It has no effect if a rule before it has written to
  its target, or if its condition does not hold.
-/
def rule (r : Rule) : Step :=
  fun p =>
    match FieldPath.ofText? r.target with
    | none =>
        (some
          ⟨.badTarget, r.target, r.position, some r.position⟩,
          p)
    | some target =>
        if p.report.hasAssigned target then (none, p)
        else
          withExpression r.condition
            (fun condition p =>
              if (p.value condition).isTruthy then
                withExpression r.value
                  (fun value p =>
                    (none,
                      p.fire ⟨r.name, target, p.value value⟩))
                  p
              else
                (none, p))
            p

/- An `expect` line. -/
def expect (clause : Clause) : Step :=
  withExpression clause fun e p =>
    (none, p.note ⟨clause.text, (p.value e).isTruthy⟩)

/- A whole test. -/
def test
    (rules : List Rule)
    (t : TestCase) : Step :=
  (each given t.givens).andThen
    ((each rule rules).andThen (each expect t.expects))

end Step

end Rulebook
