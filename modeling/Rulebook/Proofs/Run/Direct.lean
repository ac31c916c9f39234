import Rulebook.Compile
import Rulebook.Program.View
import Rulebook.Run.Report

/-
  What a run means, told without a memo: every text is compiled
  at the moment it is reached, and compiled again wherever it
  is reached again.

  Key definitions include:
    * `Clause.expression`
    * `Clause.assignments`
    * `Direct.givens`
    * `Direct.firing?`
    * `Direct.rules`
    * `Direct.expects`
    * `Direct.test`
    * `Direct.run`
-/

namespace Rulebook

------------------------------------------------------------
-- Clauses
------------------------------------------------------------

namespace Clause

/- The expression of a clause, or the error at its place. -/
def expression
    (clause : Clause) : Except EvalError Expr :=
  (compile clause.text).mapError (·.locate clause.position)

/- The assignments of a clause, or the error at its place. -/
def assignments
    (clause : Clause) :
    Except EvalError (List Assignment) :=
  (compileAssignments clause.text).mapError
    (·.locate clause.position)

end Clause

namespace Direct

------------------------------------------------------------
-- Tests
------------------------------------------------------------

/-
  The environment that `given` lines build up, each in the
  environment before it, and the error that stops them.
-/
def givens :
    List Clause → Environment →
      Environment × Option EvalError
  | [], env => (env, none)
  | clause :: clauses, env =>
      match clause.assignments with
      | .ok list => givens clauses (env.assign list)
      | .error e => (env, some e)

/-
  What a rule does where some paths are assigned already:
  nothing, or one firing.
-/
def firing?
    (r : Rule)
    (assigned : List FieldPath)
    (env : Environment) : Except EvalError (Option Firing) :=
  match FieldPath.ofText? r.target with
  | none =>
      .error
        ⟨.badTarget, r.target, r.position, some r.position⟩
  | some target =>
      if target ∈ assigned then .ok none
      else
        match r.condition.expression with
        | .error e => .error e
        | .ok condition =>
            if (condition.eval env).isTruthy then
              match r.value.expression with
              | .error e => .error e
              | .ok value =>
                  .ok (some ⟨r.name, target, value.eval env⟩)
            else
              .ok none

/- The firings so far, and the environment they lead to. -/
structure State where
  firings : List Firing
  environment : Environment

namespace State

/- The paths that the firings wrote to. -/
def assigned (state : State) : List FieldPath :=
  state.firings.map (·.target)

/- One firing more. -/
def fire
    (state : State)
    (firing : Firing) : State where
  firings := state.firings ++ [firing]
  environment :=
    state.environment.set firing.target firing.value

end State

/- Rules in order, up to the first that meets an error. -/
def rules :
    List Rule → State → State × Option EvalError
  | [], state => (state, none)
  | r :: rs, state =>
      match firing? r state.assigned state.environment with
      | .error e => (state, some e)
      | .ok none => rules rs state
      | .ok (some firing) => rules rs (state.fire firing)

/- Expectations in one environment, up to the first error. -/
def expects
    (env : Environment) :
    List Clause → List ExpectOutcome × Option EvalError
  | [] => ([], none)
  | clause :: clauses =>
      match clause.expression with
      | .error e => ([], some e)
      | .ok e =>
          let others := expects env clauses
          (⟨clause.text, (e.eval env).isTruthy⟩ :: others.1,
            others.2)

/-
  The report of a test: givens, then rules, then expectations,
  as far as no error stops it.
-/
def test
    (program : List Rule)
    (t : TestCase) : TestReport :=
  match givens t.givens .empty with
  | (env, some e) => ⟨t.name, [], [], env, some e⟩
  | (env, none) =>
      match rules program ⟨[], env⟩ with
      | (state, some e) =>
          ⟨t.name, state.firings, [], state.environment,
            some e⟩
      | (state, none) =>
          let outcomes :=
            expects state.environment t.expects
          ⟨t.name, state.firings, outcomes.1,
            state.environment, outcomes.2⟩

section

variable {program : List Rule}
variable {t : TestCase}
variable {env : Environment}
variable {state : State}
variable {e : EvalError}

theorem test_of_givens_error
    (hGivens : givens t.givens .empty = (env, some e)) :
    test program t = ⟨t.name, [], [], env, some e⟩ := by
  simp [test, hGivens]

theorem test_of_rules_error
    (hGivens : givens t.givens .empty = (env, none))
    (hRules : rules program ⟨[], env⟩ = (state, some e)) :
    test program t =
      ⟨t.name, state.firings, [], state.environment,
        some e⟩ := by
  simp [test, hGivens, hRules]

theorem test_of_rules
    (hGivens : givens t.givens .empty = (env, none))
    (hRules : rules program ⟨[], env⟩ = (state, none)) :
    test program t =
      ⟨t.name, state.firings,
        (expects state.environment t.expects).1,
        state.environment,
        (expects state.environment t.expects).2⟩ := by
  simp [test, hGivens, hRules]

end

------------------------------------------------------------
-- Runs
------------------------------------------------------------

/-
  The reports of tests in order.  Unless failures are isolated,
  the first error is all that comes out.
-/
def tests
    (isolates : Bool)
    (program : List Rule) :
    List TestCase → Except EvalError (List TestReport)
  | [] => .ok []
  | t :: ts =>
      let report := test program t
      match report.error with
      | none =>
          (tests isolates program ts).map (report :: ·)
      | some e =>
          if isolates then
            (tests isolates program ts).map (report :: ·)
          else
            .error e

/- The report of a program. -/
def run
    (isolates : Bool)
    (program : Node) : Except EvalError RunReport :=
  (tests isolates program.rules program.tests).map .mk

end Direct

end Rulebook
