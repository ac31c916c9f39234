import Mathlib.Data.List.Forall2
import Mathlib.Data.List.Nodup
import Rulebook.Proofs.Run.Isolation
import Rulebook.Proofs.Run.Stages
import Rulebook.Proofs.Value.Paths

/-
  The firings of a test tell how it went: the first rule that
  applies wins its target, and what was written in this order
  is the environment that the expectations look at.

  Key definitions include:
    * `Direct.State.Records`
    * `Decides`
    * `Certificate`

  Main results:
    * `Direct.decides_of_rules`
    * `Direct.certificate_of_test`
    * `Runner.firings_certified`
-/

namespace Rulebook

------------------------------------------------------------
-- States
------------------------------------------------------------

namespace Direct.State

variable {state : State}
variable {start : Environment}
variable {r : Rule}
variable {outcome : Option Firing}

/- The environment is what the firings have made of a first. -/
def Records
    (state : State)
    (start : Environment) : Prop :=
  state.environment = start.record state.firings

/- It is so again behind every rule. -/
theorem Records.after
    (h : state.Records start) :
    (state.after outcome).Records start := by
  unfold Records at h ⊢
  simp only [State.after, Environment.record_append, h]

/- A rule that fires writes to a path not yet assigned. -/
theorem nodup_assigned_after
    (hState : state.assigned.Nodup)
    (h : Comes r state.assigned state.environment outcome) :
    (state.after outcome).assigned.Nodup := by
  cases h with
  | skipped hTarget hAssigned =>
      simpa [State.after, assigned] using hState
  | idle hTarget hOpen hCondition hFails =>
      simpa [State.after, assigned] using hState
  | fired hTarget hOpen hCondition hHolds hValue =>
      have hApart : ∀ p ∈ state.assigned, p ≠ _ :=
        fun p hP => ne_of_mem_of_not_mem hP hOpen
      unfold assigned at hState hApart
      unfold State.after assigned
      rw [List.map_append, List.nodup_append]
      exact ⟨hState, by simp, by simpa using hApart⟩

end Direct.State

------------------------------------------------------------
-- Decisions
------------------------------------------------------------

/-
  How a rule with a target was decided behind earlier firings.
  It fired if and only if none of them had its target and its
  condition held in the environment that they had made; then
  its value is the one of its expression in this environment.
-/
structure Decides
    (start : Environment)
    (earlier : List Firing)
    (r : Rule)
    (target : FieldPath)
    (outcome : Option Firing) : Prop where
  path : FieldPath.ofText? r.target = some target
  fired_iff :
    outcome.isSome = true ↔
      (∀ f ∈ earlier, f.target ≠ target) ∧
        ∃ condition,
          compile r.condition.text = .ok condition ∧
            (condition.eval
              (start.record earlier)).isTruthy = true
  firing :
    ∀ f ∈ outcome,
      f.rule = r.name ∧
        f.target = target ∧
        ∃ value,
          compile r.value.text = .ok value ∧
            f.value = value.eval (start.record earlier)

namespace Direct

/- What a rule comes to is decided by the firings before it. -/
theorem Comes.decides
    {r : Rule}
    {state : State}
    {start : Environment}
    {outcome : Option Firing}
    (hRecords : state.Records start)
    (h : Comes r state.assigned state.environment outcome) :
    ∃ target,
      Decides start state.firings r target outcome := by
  rw [State.Records] at hRecords
  rw [hRecords] at h
  cases h with
  | @skipped target hTarget hAssigned =>
      refine ⟨target, hTarget, ?_, by simp⟩
      rw [← State.not_mem_assigned_iff]
      simp [hAssigned]
  | @idle target condition hTarget hOpen hCondition hFails =>
      refine ⟨target, hTarget, ?_, by simp⟩
      simp [hCondition, hFails]
  | @fired target condition value hTarget hOpen hCondition
      hHolds hValue =>
      refine ⟨target, hTarget, ?_, ?_⟩
      · rw [← State.not_mem_assigned_iff]
        simp [hOpen, hCondition, hHolds]
      · intro f hF
        cases hF
        exact ⟨rfl, rfl, value, hValue, rfl⟩

/-
  Rules that all go on come to outcomes, one each, which are
  decided in turn and make up the firings.
-/
theorem decides_of_rules
    {rs : List Rule}
    {state last : State}
    {start : Environment}
    (hRecords : state.Records start)
    (h : rules rs state = (last, none)) :
    ∃ outcomes : List (Option Firing),
      outcomes.length = rs.length ∧
        (∀ i r outcome,
          rs[i]? = some r →
            outcomes[i]? = some outcome →
              ∃ target,
                Decides start
                  (state.firings ++
                    (outcomes.take i).filterMap id)
                  r target outcome) ∧
        last.firings =
          state.firings ++ outcomes.filterMap id ∧
        last.Records start := by
  induction rs generalizing state with
  | nil =>
      cases h
      exact ⟨[], rfl, by simp, by simp, hRecords⟩
  | cons r rs ih =>
      cases hFiring :
          firing? r state.assigned state.environment with
      | error e => simp [rules, hFiring] at h
      | ok outcome =>
          rw [rules_of_firing? hFiring] at h
          rcases ih hRecords.after h with
            ⟨outcomes, hLength, hDecides, hFirings, hLast⟩
          have hFirst :=
            (firing?_eq_ok_iff.mp hFiring).decides hRecords
          refine
            ⟨outcome :: outcomes, by simp [hLength], ?_, ?_,
              hLast⟩
          · intro i u found hRule hOutcome
            cases i with
            | zero =>
                cases hRule
                cases hOutcome
                simpa using hFirst
            | succ i =>
                have hNext := hDecides i u found hRule hOutcome
                cases outcome <;>
                  simpa [State.after] using hNext
          · rw [hFirings]
            cases outcome <;> simp [State.after]

/- No two rules write to the same target. -/
theorem nodup_assigned_of_rules
    {rs : List Rule}
    {state last : State}
    {error : Option EvalError}
    (hState : state.assigned.Nodup)
    (h : rules rs state = (last, error)) :
    last.assigned.Nodup := by
  induction rs generalizing state with
  | nil =>
      cases h
      exact hState
  | cons r rs ih =>
      cases hFiring :
          firing? r state.assigned state.environment with
      | error e =>
          simp only [rules, hFiring, Prod.mk.injEq] at h
          rw [← h.1]
          exact hState
      | ok outcome =>
          rw [rules_of_firing? hFiring] at h
          exact
            ih
              (State.nodup_assigned_after hState
                (firing?_eq_ok_iff.mp hFiring))
              h

/- Expectations without an error are met if they hold. -/
theorem forall₂_expects
    {env : Environment}
    {clauses : List Clause}
    {outcomes : List ExpectOutcome}
    (h : expects env clauses = (outcomes, none)) :
    List.Forall₂
      (fun clause outcome =>
        outcome.expression = clause.text ∧
          ∃ e,
            compile clause.text = .ok e ∧
              outcome.passed = (e.eval env).isTruthy)
      clauses outcomes := by
  induction clauses generalizing outcomes with
  | nil =>
      cases h
      exact .nil
  | cons clause clauses ih =>
      cases hClause : clause.expression with
      | error e => simp [expects, hClause] at h
      | ok e =>
          rcases hOthers : expects env clauses with
            ⟨others, error⟩
          simp only [expects, hClause, hOthers,
            Prod.mk.injEq] at h
          rcases h with ⟨rfl, rfl⟩
          exact
            .cons
              ⟨rfl, e, expression_eq_ok_iff.mp hClause, rfl⟩
              (ih hOthers)

end Direct

------------------------------------------------------------
-- Certificates
------------------------------------------------------------

/- A firing that a rule can make, by its name and target. -/
def Rule.Makes
    (r : Rule)
    (f : Firing) : Prop :=
  f.rule = r.name ∧
    FieldPath.ofText? r.target = some f.target

/-
  The report of a test, certified by the environment behind its
  `given` lines and by what each rule came to.
-/
structure Certificate
    (rules : List Rule)
    (t : TestCase)
    (start : Environment)
    (outcomes : List (Option Firing))
    (report : TestReport) : Prop where
  givens : Direct.givens t.givens .empty = (start, none)
  length : outcomes.length = rules.length
  decides :
    ∀ i r outcome,
      rules[i]? = some r →
        outcomes[i]? = some outcome →
          ∃ target,
            Decides start ((outcomes.take i).filterMap id)
              r target outcome
  firings : report.firings = outcomes.filterMap id
  fired :
    ∃ fired : List Rule,
      fired.Sublist rules ∧
        List.Forall₂ Rule.Makes fired report.firings
  targets : (report.firings.map (·.target.text)).Nodup
  environment :
    report.environment = start.record report.firings
  expects :
    List.Forall₂
      (fun clause outcome =>
        outcome.expression = clause.text ∧
          ∃ e,
            compile clause.text = .ok e ∧
              outcome.passed =
                (e.eval report.environment).isTruthy)
      t.expects report.expects

/- The rules that fired are some of the rules, in order. -/
theorem exists_fired
    {rs : List Rule}
    {outcomes : List (Option Firing)}
    (hLength : outcomes.length = rs.length)
    (hMakes :
      ∀ (i : Nat) (r : Rule) outcome,
        rs[i]? = some r →
          outcomes[i]? = some outcome →
            ∀ f ∈ outcome, r.Makes f) :
    ∃ fired : List Rule,
      fired.Sublist rs ∧
        List.Forall₂ Rule.Makes fired
          (outcomes.filterMap id) := by
  induction rs generalizing outcomes with
  | nil =>
      rw [List.eq_nil_of_length_eq_zero hLength]
      exact ⟨[], .slnil, .nil⟩
  | cons r rs ih =>
      cases outcomes with
      | nil => cases hLength
      | cons outcome outcomes =>
          have hFirst := hMakes 0 r outcome rfl rfl
          rcases
              ih (Nat.succ.inj hLength)
                (fun i => hMakes (i + 1)) with
            ⟨fired, hSublist, hFired⟩
          cases outcome with
          | none => exact ⟨fired, hSublist.cons r, hFired⟩
          | some f =>
              exact
                ⟨r :: fired, hSublist.cons_cons r,
                  .cons (hFirst f rfl) hFired⟩

/- Different targets of rules have different texts. -/
theorem nodup_texts
    {fired : List Rule}
    {firings : List Firing}
    (hFired : List.Forall₂ Rule.Makes fired firings)
    (hTargets : (firings.map (·.target)).Nodup) :
    (firings.map (·.target.text)).Nodup := by
  have hRead :
      ∀ f ∈ firings,
        ∃ text, FieldPath.ofText? text = some f.target := by
    clear hTargets
    induction hFired with
    | nil => simp
    | @cons r f fired firings hMakes hFired ih =>
        exact
          List.forall_mem_cons.mpr ⟨⟨r.target, hMakes.2⟩, ih⟩
  have hTexts :
      firings.map (·.target.text) =
        (firings.map (·.target)).map FieldPath.text := by
    simp
  rw [hTexts]
  apply List.Nodup.map_on _ hTargets
  intro p hP q hQ hSame
  rcases List.mem_map.mp hP with ⟨f, hF, rfl⟩
  rcases List.mem_map.mp hQ with ⟨g, hG, rfl⟩
  rcases hRead f hF with ⟨text, hText⟩
  rcases hRead g hG with ⟨other, hOther⟩
  exact (FieldPath.text_inj_of_ofText? hText hOther).mp hSame

/- A test without an error has a certificate. -/
theorem Direct.certificate_of_test
    {rs : List Rule}
    {t : TestCase}
    (h : (test rs t).error = none) :
    ∃ start outcomes,
      Certificate rs t start outcomes (test rs t) := by
  rcases exists_reaches_of_test h with
    ⟨last, start, hGivens, hRules⟩
  have hStart : State.Records ⟨[], start⟩ start := rfl
  rcases decides_of_rules hStart hRules with
    ⟨outcomes, hLength, hDecides, hFirings, hLast⟩
  have hTest := test_of_rules hGivens hRules
  rw [hTest] at h ⊢
  have hExpects :
      expects last.environment t.expects =
        ((expects last.environment t.expects).1, none) :=
    Prod.ext rfl h
  have hFired :
      ∃ fired : List Rule,
        fired.Sublist rs ∧
          List.Forall₂ Rule.Makes fired last.firings := by
    rw [hFirings]
    apply exists_fired hLength
    intro i r outcome hRule hOutcome f hF
    rcases hDecides i r outcome hRule hOutcome with
      ⟨target, hTarget⟩
    rcases hTarget.firing f hF with ⟨hName, hPath, _⟩
    exact ⟨hName, by rw [hPath, hTarget.path]⟩
  have hTargets : last.assigned.Nodup :=
    nodup_assigned_of_rules (by simp [State.assigned]) hRules
  rcases hFired with ⟨fired, hSublist, hMakes⟩
  exact
    ⟨start, outcomes, hGivens, hLength, hDecides, hFirings,
      ⟨fired, hSublist, hMakes⟩, nodup_texts hMakes hTargets,
      hLast, forall₂_expects hExpects⟩

/-
  Whatever was run before: for each report of a run that has no
  error there are an environment behind the `given` lines and
  outcomes of the rules that certify it.
-/
theorem Runner.firings_certified
    {isolates : Bool}
    {history : List (Bool × Node)}
    {program : Node}
    {report : RunReport}
    (hRun :
      ((resumed isolates history).run program).result =
        .ok report) :
    List.Forall₂
      (fun t tested =>
        tested.error = none →
          ∃ start outcomes,
            Certificate program.rules t start outcomes tested)
      program.tests report.tests := by
  rw [resumed_result] at hRun
  rw [Direct.tests_of_run hRun, List.forall₂_map_right_iff,
    List.forall₂_same]
  intro t hT hError
  exact Direct.certificate_of_test hError

/- A rule that holds where `a` is positive, on one line. -/
def positiveRule
    (name target value : String)
    (line : Nat) : Node :=
  ⟨.rule, name, ⟨line, 1⟩,
    [⟨.when, "a > 0", ⟨line, 15⟩, []⟩,
     ⟨.set, "", ⟨line, 26⟩,
       [⟨.target, target, ⟨line, 26⟩, []⟩,
        ⟨.value, value, ⟨line, 34⟩, []⟩]⟩]⟩

/- Two rules that hold for one target, and a test of them. -/
def contested : Node :=
  ⟨.program, "", .start,
    [positiveRule "first" "b . c" "a + 1" 1,
     positiveRule "second" "b . c" "a + 2" 2,
     ⟨.test, "t", ⟨3, 1⟩,
       [⟨.given, "a = 1", ⟨4, 3⟩, []⟩,
        ⟨.expect, "b.c == 2", ⟨5, 3⟩, []⟩]⟩]⟩

/- Only the first of them fires. -/
theorem Runner.firings_certified_contested :
    ∃ report t tested start outcomes,
      ((resumed false []).run contested).result =
          .ok report ∧
        contested.tests = [t] ∧
        report.tests = [tested] ∧
        tested.error = none ∧
        tested.firings.map (·.rule) = ["first"] ∧
        Certificate contested.rules t start outcomes
          tested := by
  have hSeen :
      ((resumed false []).run contested).result.map
          (fun report =>
            report.tests.map fun tested =>
              (tested.error, tested.firings.map (·.rule))) =
        .ok [(none, ["first"])] := by
    decide +kernel
  rcases map_eq_ok_iff.mp hSeen with ⟨report, hRun, hTests⟩
  rcases List.map_eq_singleton_iff.mp hTests with
    ⟨tested, hTested, hPair⟩
  rcases Prod.mk.inj hPair with ⟨hError, hFirst⟩
  have hCertified := firings_certified hRun
  rw [hTested] at hCertified
  cases hCertified with
  | cons hOne hNone =>
      cases hNone
      rcases hOne hError with ⟨start, outcomes, hCertificate⟩
      exact
        ⟨report, _, tested, start, outcomes, hRun, rfl,
          hTested, hError, hFirst, hCertificate⟩

end Rulebook
