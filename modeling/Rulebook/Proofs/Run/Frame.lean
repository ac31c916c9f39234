import Rulebook.Proofs.Run.Firings
import Rulebook.Proofs.Value.Fields

/-
  Rules touch nothing but their targets, and what they write
  there stays, unless a later rule writes over it.

  Key definitions include:
    * `Clause.ComesTo`
    * `Framed`

  Main results:
    * `Environment.get_record_of_apart`
    * `Environment.get_record_of_last`
    * `Direct.framed_of_test`
    * `Runner.rules_touch_targets`
-/

namespace Rulebook

------------------------------------------------------------
-- Recorded Firings
------------------------------------------------------------

namespace Environment

variable {env : Environment}
variable {firings front back : List Firing}
variable {f : Firing}
variable {path : FieldPath}

/- Firings do not touch what overlaps with no target. -/
theorem get_record_of_apart
    (h : ∀ f ∈ firings, ¬ f.target.Overlaps path) :
    (env.record firings).get path = env.get path := by
  induction firings generalizing env with
  | nil => rfl
  | cons f firings ih =>
      rcases List.forall_mem_cons.mp h with ⟨hFirst, hMore⟩
      calc
        (env.record (f :: firings)).get path
        _ = ((env.set f.target f.value).record
              firings).get path := rfl
        _ = (env.set f.target f.value).get path := ih hMore
        _ = env.get path := get_set_of_apart hFirst

/- A firing keeps its value where no later one overlaps. -/
theorem get_record_of_last
    (h : ∀ g ∈ back, ¬ g.target.Overlaps f.target) :
    (env.record (front ++ f :: back)).get f.target =
      f.value := by
  rw [record_append]
  calc
    ((env.record front).record (f :: back)).get f.target
    _ = (((env.record front).set f.target
          f.value).record back).get f.target := rfl
    _ = ((env.record front).set f.target
          f.value).get f.target := get_record_of_apart h
    _ = f.value := get_set_self

end Environment

------------------------------------------------------------
-- Frames
------------------------------------------------------------

/- What an expectation comes to in an environment. -/
def Clause.ComesTo
    (clause : Clause)
    (env : Environment)
    (outcome : ExpectOutcome) : Prop :=
  outcome.expression = clause.text ∧
    ∃ e,
      compile clause.text = .ok e ∧
        outcome.passed = (e.eval env).isTruthy

/-
  A report of a test tells of an environment that differs from
  the one behind the `given` lines at the targets of the firings
  only.  There it has the values of the firings, each one unless
  a later firing wrote at a prefix or an extension of its
  target.  All expectations look at this environment.
-/
structure Framed
    (t : TestCase)
    (start : Environment)
    (report : TestReport) : Prop where
  givens : Direct.givens t.givens .empty = (start, none)
  untouched :
    ∀ path,
      (∀ f ∈ report.firings, ¬ f.target.Overlaps path) →
        report.environment.get path = start.get path
  kept :
    ∀ front f back,
      report.firings = front ++ f :: back →
        (∀ g ∈ back,
          ¬ g.target.ProperPrefix f.target ∧
            ¬ f.target.ProperPrefix g.target) →
          report.environment.get f.target = f.value
  expects :
    List.Forall₂
      (fun clause outcome =>
        clause.ComesTo report.environment outcome)
      t.expects report.expects

/-
  No two firings have the same target.  So a later one overlaps
  only if one target is a proper prefix of the other.
-/
theorem not_overlaps_of_nodup
    {front back : List Firing}
    {f g : Firing}
    (hTargets :
      ((front ++ f :: back).map (·.target)).Nodup)
    (hG : g ∈ back)
    (hProper :
      ¬ g.target.ProperPrefix f.target ∧
        ¬ f.target.ProperPrefix g.target) :
    ¬ g.target.Overlaps f.target := by
  rw [List.map_append, List.map_cons] at hTargets
  have hBehind := hTargets.of_append_right
  have hIn : g.target ∈ back.map (·.target) :=
    List.mem_map_of_mem hG
  have hNe : g.target ≠ f.target :=
    ne_of_mem_of_not_mem hIn (List.nodup_cons.mp hBehind).1
  rw [FieldPath.overlaps_iff_of_ne hNe, not_or]
  exact hProper

/- A certified report is framed. -/
theorem Certificate.framed
    {rules : List Rule}
    {t : TestCase}
    {start : Environment}
    {outcomes : List (Option Firing)}
    {report : TestReport}
    (h : Certificate rules t start outcomes report) :
    Framed t start report where
  givens := h.givens
  untouched path hApart := by
    rw [h.environment]
    exact Environment.get_record_of_apart hApart
  kept front f back hFirings hProper := by
    have hTargets : (report.firings.map (·.target)).Nodup := by
      apply List.Nodup.of_map FieldPath.text
      rw [List.map_map]
      exact h.targets
    rw [h.environment, hFirings]
    rw [hFirings] at hTargets
    apply Environment.get_record_of_last
    intro g hG
    exact not_overlaps_of_nodup hTargets hG (hProper g hG)
  expects := h.expects

/- So is that of every test without an error. -/
theorem Direct.framed_of_test
    {rs : List Rule}
    {t : TestCase}
    (h : (test rs t).error = none) :
    ∃ start, Framed t start (test rs t) := by
  rcases certificate_of_test h with
    ⟨start, outcomes, hCertificate⟩
  exact ⟨start, hCertificate.framed⟩

/-
  Whatever was run before, each report of a run that has no
  error is framed by the environment behind its `given` lines.
-/
theorem Runner.rules_touch_targets
    {isolates : Bool}
    {history : List (Bool × Node)}
    {program : Node}
    {report : RunReport}
    (hRun :
      ((resumed isolates history).run program).result =
        .ok report) :
    List.Forall₂
      (fun t tested =>
        tested.error = none →
          ∃ start, Framed t start tested)
      program.tests report.tests := by
  rw [resumed_result] at hRun
  rw [Direct.tests_of_run hRun, List.forall₂_map_right_iff,
    List.forall₂_same]
  intro t hT hError
  exact Direct.framed_of_test hError

/- Rules at targets that lead through one another. -/
def nested : Node :=
  ⟨.program, "", .start,
    [positiveRule "first" "b.c" "a + 1" 1,
     positiveRule "second" "b.d" "b.c + 1" 2,
     positiveRule "third" "b.c.x" "b.d + 1" 3,
     ⟨.test, "t", ⟨4, 1⟩,
       [⟨.given, "a = 1, b = 7", ⟨5, 3⟩, []⟩,
        ⟨.expect, "b.d > b.c.x", ⟨6, 3⟩, []⟩]⟩]⟩

/- All of them fire; the third writes over the first. -/
theorem Runner.rules_touch_targets_nested :
    ∃ report t tested start,
      ((resumed false []).run nested).result = .ok report ∧
        nested.tests = [t] ∧
        report.tests = [tested] ∧
        tested.error = none ∧
        tested.firings.map (·.target.text) =
          ["b.c", "b.d", "b.c.x"] ∧
        Framed t start tested := by
  have hSeen :
      ((resumed false []).run nested).result.map
          (fun report =>
            report.tests.map fun tested =>
              (tested.error,
                tested.firings.map (·.target.text))) =
        .ok [(none, ["b.c", "b.d", "b.c.x"])] := by
    decide +kernel
  rcases map_eq_ok_iff.mp hSeen with ⟨report, hRun, hTests⟩
  rcases List.map_eq_singleton_iff.mp hTests with
    ⟨tested, hTested, hPair⟩
  rcases Prod.mk.inj hPair with ⟨hError, hTargets⟩
  have hFramed := rules_touch_targets hRun
  rw [hTested] at hFramed
  cases hFramed with
  | cons hOne hNone =>
      cases hNone
      rcases hOne hError with ⟨start, hStart⟩
      exact
        ⟨report, _, tested, start, hRun, rfl, hTested,
          hError, hTargets, hStart⟩

end Rulebook
