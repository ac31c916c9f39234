import Rulebook.Proofs.Run.Firings
import Rulebook.Proofs.Value.Fields

/-
  Two rules in a row can be exchanged if neither writes where
  the other one reads or writes.

  Key definitions include:
    * `CompiledRule`
    * `CompiledRule.Apart`
    * `CompiledRule.outcome`
    * `Direct.State.Alike`
    * `Exchanges`

  Main results:
    * `Direct.rules_alike`
    * `Direct.rules_exchange_first`
    * `Direct.test_exchange`
    * `Runner.exchange_rules`
-/

namespace Rulebook

------------------------------------------------------------
-- Compiled Rules
------------------------------------------------------------

/- A rule whose texts can all be compiled. -/
structure CompiledRule where
  rule : Rule
  target : FieldPath
  condition : Expr
  value : Expr
  hTarget : FieldPath.ofText? rule.target = some target
  hCondition : compile rule.condition.text = .ok condition
  hValue : compile rule.value.text = .ok value

namespace CompiledRule

/- The paths that a rule reads. -/
def paths (r : CompiledRule) : List FieldPath :=
  r.condition.paths ++ r.value.paths

/-
  Neither of two rules writes at a path that is a prefix or an
  extension of one where the other rule reads or writes.
-/
structure Apart (r s : CompiledRule) : Prop where
  targets : ¬ r.target.Overlaps s.target
  left : ∀ p ∈ r.paths, ¬ s.target.Overlaps p
  right : ∀ p ∈ s.paths, ¬ r.target.Overlaps p

variable {r s : CompiledRule}

/- Being apart does not depend on the order. -/
theorem Apart.symm (h : r.Apart s) : s.Apart r where
  targets := by
    rw [FieldPath.overlaps_comm]
    exact h.targets
  left := h.right
  right := h.left

/-
  What a rule comes to: a firing, if its target is open and its
  condition holds.
-/
def outcome
    (r : CompiledRule)
    (state : Direct.State) : Option Firing :=
  if r.target ∉ state.assigned ∧
      (r.condition.eval state.environment).isTruthy then
    some
      ⟨r.rule.name, r.target,
        r.value.eval state.environment⟩
  else
    none

/- A rule fires at its target. -/
theorem target_of_mem_outcome
    {state : Direct.State} :
    ∀ f ∈ r.outcome state, f.target = r.target := by
  intro f hF
  unfold outcome at hF
  split at hF
  · cases hF
    rfl
  · cases hF

/-
  A rule comes to the same behind what another one came to, if
  the two are apart.
-/
theorem outcome_after
    (state : Direct.State)
    (h : r.Apart s) :
    s.outcome (state.after (r.outcome state)) =
      s.outcome state := by
  have hTarget :
      ∀ f ∈ r.outcome state, f.target = r.target :=
    target_of_mem_outcome
  revert hTarget
  cases r.outcome state with
  | none =>
      intro _
      simp [outcome, Direct.State.after, Direct.State.assigned]
  | some f =>
      intro hTarget
      have hF : f.target = r.target := hTarget f rfl
      have hCondition :
          ∀ p ∈ s.condition.paths, ¬ r.target.Overlaps p :=
        fun p hP => h.right p (List.mem_append_left _ hP)
      have hValue :
          ∀ p ∈ s.value.paths, ¬ r.target.Overlaps p :=
        fun p hP => h.right p (List.mem_append_right _ hP)
      have hNe : s.target ≠ r.target :=
        (FieldPath.ne_of_not_overlaps h.targets).symm
      simp [outcome, Direct.State.after,
        Direct.State.assigned, Environment.record, hF,
        Expr.eval_set hCondition, Expr.eval_set hValue, hNe]

/- A compiled rule meets no error. -/
theorem firing?_eq_ok
    (r : CompiledRule)
    (state : Direct.State) :
    Direct.firing? r.rule state.assigned state.environment =
      .ok (r.outcome state) := by
  rw [Direct.firing?_eq_ok_iff]
  unfold outcome
  by_cases hOpen : r.target ∉ state.assigned
  · by_cases hHolds :
        (r.condition.eval state.environment).isTruthy = true
    · rw [if_pos ⟨hOpen, hHolds⟩]
      exact .fired r.hTarget hOpen r.hCondition hHolds r.hValue
    · rw [if_neg (fun hBoth => hHolds hBoth.2)]
      exact
        .idle r.hTarget hOpen r.hCondition
          (by simpa using hHolds)
  · rw [if_neg (fun hBoth => hOpen hBoth.1)]
    exact .skipped r.hTarget (by simpa using hOpen)

end CompiledRule

namespace Direct

variable {state state' : State}

------------------------------------------------------------
-- States That Are Alike
------------------------------------------------------------

/-
  Two states are alike if the rules behind them cannot tell
  them apart: the order of the firings does not matter.
-/
structure State.Alike (state state' : State) : Prop where
  environment : state.environment = state'.environment
  assigned :
    ∀ p, p ∈ state.assigned ↔ p ∈ state'.assigned

/- States stay alike behind the same firing. -/
theorem State.Alike.after
    {outcome : Option Firing}
    (h : state.Alike state') :
    (state.after outcome).Alike (state'.after outcome) where
  environment := by
    simp only [State.after, h.environment]
  assigned p := by
    have hP := h.assigned p
    unfold State.assigned at hP
    simp only [State.after, State.assigned, List.map_append,
      List.mem_append, hP]

/- A rule comes to the same in states that are alike. -/
theorem firing?_alike
    {r : Rule}
    (h : state.Alike state') :
    firing? r state.assigned state.environment =
      firing? r state'.assigned state'.environment := by
  unfold firing?
  rw [h.environment]
  simp only [h.assigned]

/- Rules add the same firings to states that are alike. -/
theorem rules_alike
    {rs : List Rule}
    (h : state.Alike state') :
    ∃ added,
      (rules rs state).1.firings = state.firings ++ added ∧
        (rules rs state').1.firings =
          state'.firings ++ added ∧
        (rules rs state).1.environment =
          (rules rs state').1.environment ∧
        (rules rs state).2 = (rules rs state').2 := by
  induction rs generalizing state state' with
  | nil =>
      exact
        ⟨[], by simp [rules], by simp [rules], h.environment,
          rfl⟩
  | cons r rs ih =>
      cases hFiring :
          firing? r state.assigned state.environment with
      | error e =>
          have hFiring' := hFiring
          rw [firing?_alike h] at hFiring'
          simp only [rules, hFiring, hFiring']
          exact
            ⟨[], by simp, by simp, h.environment, trivial⟩
      | ok outcome =>
          have hFiring' := hFiring
          rw [firing?_alike h] at hFiring'
          rw [rules_of_firing? hFiring,
            rules_of_firing? hFiring']
          rcases ih h.after with
            ⟨added, hAdded, hAdded', hSame⟩
          refine
            ⟨outcome.toList ++ added, ?_, ?_, hSame⟩
          · simpa [State.after] using hAdded
          · simpa [State.after] using hAdded'

/- Firings at paths that do not overlap trade places. -/
theorem alike_after_after
    {outcome outcome' : Option Firing}
    (h :
      ∀ f ∈ outcome, ∀ g ∈ outcome',
        ¬ f.target.Overlaps g.target) :
    ((state.after outcome).after outcome').Alike
      ((state.after outcome').after outcome) where
  environment := by
    cases outcome with
    | none => rfl
    | some f =>
        cases outcome' with
        | none => rfl
        | some g =>
            exact Environment.set_comm (h f rfl g rfl)
  assigned p := by
    simp only [State.after, State.assigned, List.map_append,
      List.mem_append]
    exact or_right_comm

------------------------------------------------------------
-- Rules In Another Order
------------------------------------------------------------

/-
  Two rules that are apart can be exchanged at the start: both
  come to the same, in the other order.
-/
theorem rules_exchange_first
    {r s : CompiledRule}
    (back : List Rule)
    (state : State)
    (h : r.Apart s) :
    let one := rules (r.rule :: s.rule :: back) state
    let two := rules (s.rule :: r.rule :: back) state
    one.1.environment = two.1.environment ∧
      one.2 = two.2 ∧
      ∃ behind,
        one.1.firings =
            state.firings ++ (r.outcome state).toList ++
              (s.outcome state).toList ++ behind ∧
          two.1.firings =
            state.firings ++ (s.outcome state).toList ++
              (r.outcome state).toList ++ behind := by
  have hAlike :
      ((state.after (r.outcome state)).after
          (s.outcome state)).Alike
        ((state.after (s.outcome state)).after
          (r.outcome state)) := by
    apply alike_after_after
    intro f hF g hG
    rw [CompiledRule.target_of_mem_outcome f hF,
      CompiledRule.target_of_mem_outcome g hG]
    exact h.targets
  dsimp only
  rw [rules_of_firing? (r.firing?_eq_ok state),
    rules_of_firing? (s.firing?_eq_ok state),
    rules_of_firing? (s.firing?_eq_ok _),
    rules_of_firing? (r.firing?_eq_ok _),
    CompiledRule.outcome_after state h,
    CompiledRule.outcome_after state h.symm]
  rcases rules_alike hAlike with
    ⟨behind, hOne, hTwo, hEnvironment, hError⟩
  exact ⟨hEnvironment, hError, behind, hOne, hTwo⟩

end Direct

------------------------------------------------------------
-- Tests
------------------------------------------------------------

/-
  Two reports of a test tell the same, except that the firings
  of two rules trade places if the test gets to these rules and
  both of them fire.
-/
structure Exchanges
    (front : List Rule)
    (r s : CompiledRule)
    (t : TestCase)
    (report report' : TestReport) : Prop where
  name : report.name = report'.name
  error : report.error = report'.error
  expects : report.expects = report'.expects
  environment : report.environment = report'.environment
  reached :
    ∀ state,
      Direct.Reaches front t state →
        ∃ behind,
          report.firings =
              state.firings ++ (r.outcome state).toList ++
                (s.outcome state).toList ++ behind ∧
            report'.firings =
              state.firings ++ (s.outcome state).toList ++
                (r.outcome state).toList ++ behind
  stopped :
    (¬ ∃ state, Direct.Reaches front t state) →
      report.firings = report'.firings

namespace Direct

/- Two rules that are apart can be exchanged in a test. -/
theorem test_exchange
    {r s : CompiledRule}
    (front back : List Rule)
    (t : TestCase)
    (h : r.Apart s) :
    Exchanges front r s t
      (test (front ++ r.rule :: s.rule :: back) t)
      (test (front ++ s.rule :: r.rule :: back) t) := by
  by_cases hReached : ∃ state, Reaches front t state
  · rcases hReached with ⟨state, hState⟩
    rcases rules_exchange_first back state h with
      ⟨hEnvironment, hError, hFirings⟩
    have hOutcomes :=
      reported_congr (t := t) hEnvironment hError
    rw [test_of_reaches _ hState, test_of_reaches _ hState]
    refine
      ⟨rfl, hOutcomes.2, hOutcomes.1, hEnvironment, ?_,
        absurd ⟨state, hState⟩⟩
    intro other hOther
    rw [← hState.unique hOther]
    exact hFirings
  · rcases test_of_not_reaches hReached with
      ⟨report, _, _, hReport⟩
    rw [hReport, hReport]
    refine ⟨rfl, rfl, rfl, rfl, ?_, fun _ => rfl⟩
    intro state hState
    exact absurd ⟨state, hState⟩ hReached

end Direct

------------------------------------------------------------
-- Nodes
------------------------------------------------------------

namespace Node

variable {program first second : Node}
variable {r s : Rule}
variable {before between behind : List Node}

/- A node that is a rule is no test. -/
theorem test?_eq_none_of_rule?
    (h : first.rule? = some r) : first.test? = none := by
  unfold rule? at h
  split at h
  · rename_i hKind
    simp [test?, hKind]
  · cases h

/- Two rules with none between them are two rules in a row. -/
theorem rules_of_children
    (hChildren :
      program.children =
        before ++ first :: (between ++ second :: behind))
    (hFirst : first.rule? = some r)
    (hSecond : second.rule? = some s)
    (hBetween : ∀ node ∈ between, node.rule? = none) :
    program.rules =
      before.filterMap rule? ++
        r :: s :: behind.filterMap rule? := by
  simp [rules, hChildren, hFirst, hSecond,
    List.filterMap_eq_nil_iff.mpr hBetween]

/- The tests do not depend on where the rules stand. -/
theorem tests_of_children
    (hChildren :
      program.children =
        before ++ first :: (between ++ second :: behind))
    (hFirst : first.rule? = some r)
    (hSecond : second.rule? = some s) :
    program.tests =
      before.filterMap test? ++
        (between.filterMap test? ++
          behind.filterMap test?) := by
  simp [tests, hChildren, test?_eq_none_of_rule? hFirst,
    test?_eq_none_of_rule? hSecond]

end Node

------------------------------------------------------------
-- Runs
------------------------------------------------------------

/-
  Two results are the same error, or reports that tell the same
  of each test but for the exchange of two rules.
-/
inductive ResultsExchange
    (front : List Rule)
    (r s : CompiledRule)
    (ts : List TestCase) :
    Except EvalError RunReport →
      Except EvalError RunReport → Prop where
  | ok
      {report report' : RunReport}
      (hLength : report.tests.length = ts.length)
      (hLength' : report'.tests.length = ts.length)
      (hTests :
        ∀ (i : Nat) t tested tested',
          ts[i]? = some t →
            report.tests[i]? = some tested →
              report'.tests[i]? = some tested' →
                Exchanges front r s t tested tested') :
      ResultsExchange front r s ts (.ok report) (.ok report')
  | error (e : EvalError) :
      ResultsExchange front r s ts (.error e) (.error e)

/- Two rules that are apart can be exchanged in a run. -/
theorem Direct.tests_exchange
    {r s : CompiledRule}
    (isolates : Bool)
    (front back : List Rule)
    (ts : List TestCase)
    (h : r.Apart s) :
    ResultsExchange front r s ts
      ((tests isolates (front ++ r.rule :: s.rule :: back)
        ts).map .mk)
      ((tests isolates (front ++ s.rule :: r.rule :: back)
        ts).map .mk) := by
  have hReports :
      ResultsExchange front r s ts
        (.ok
          ⟨ts.map
            (test (front ++ r.rule :: s.rule :: back))⟩)
        (.ok
          ⟨ts.map
            (test (front ++ s.rule :: r.rule :: back))⟩) := by
    apply ResultsExchange.ok
    · simp
    · simp
    · intro i t tested tested' hT hTested hTested'
      simp only [List.getElem?_map, hT, Option.map_some,
        Option.some.injEq] at hTested hTested'
      rw [← hTested, ← hTested']
      exact test_exchange front back t h
  cases isolates with
  | true =>
      rw [tests_isolated, tests_isolated]
      exact hReports
  | false =>
      have hErrors :
          (ts.map
              (test
                (front ++ r.rule :: s.rule :: back))).findSome?
                (·.error) =
            (ts.map
              (test
                (front ++ s.rule :: r.rule :: back))).findSome?
                (·.error) := by
        rw [List.findSome?_map, List.findSome?_map]
        congr 1
        funext t
        exact (test_exchange front back t h).error
      rw [tests_strict, tests_strict, hErrors]
      split
      · exact .error _
      · exact hReports

/-
  Two rules with none between them, whose texts can all be
  compiled and neither of which writes at a prefix or an
  extension of a path where the other one reads or writes, can
  be exchanged: each test ends with the same error, outcomes and
  environment, and only their firings trade places.
-/
theorem Runner.exchange_rules
    {program exchanged first second : Node}
    {before between behind : List Node}
    {r s : CompiledRule}
    (isolates : Bool)
    (history history' : List (Bool × Node))
    (hProgram :
      program.children =
        before ++ first :: (between ++ second :: behind))
    (hExchanged :
      exchanged.children =
        before ++ second :: (between ++ first :: behind))
    (hFirst : first.rule? = some r.rule)
    (hSecond : second.rule? = some s.rule)
    (hBetween : ∀ node ∈ between, node.rule? = none)
    (hApart : r.Apart s) :
    ResultsExchange (before.filterMap Node.rule?) r s
      program.tests
      ((resumed isolates history).run program).result
      ((resumed isolates history').run exchanged).result := by
  have hTests := Node.tests_of_children hProgram hFirst hSecond
  have hTests' :=
    Node.tests_of_children hExchanged hSecond hFirst
  rw [resumed_result, resumed_result, Direct.run, Direct.run,
    Node.rules_of_children hProgram hFirst hSecond hBetween,
    Node.rules_of_children hExchanged hSecond hFirst hBetween,
    hTests', ← hTests]
  exact Direct.tests_exchange isolates _ _ _ hApart

/- A rule that reads `a` only, with all its texts compiled. -/
theorem exists_compiled_positiveRule
    {target value : String}
    {segments : List String}
    (name : String)
    (line : Nat)
    (hTarget :
      (FieldPath.ofText? target).map (·.segments) =
        some segments)
    (hValue :
      (compile value).map (·.paths.map (·.segments)) =
        .ok [["a"]]) :
    ∃ r : CompiledRule,
      (positiveRule name target value line).rule? =
          some r.rule ∧
        r.target.segments = segments ∧
        ∀ p ∈ r.paths, p.segments = ["a"] := by
  have hCondition :
      (compile "a > 0").map (·.paths.map (·.segments)) =
        .ok [["a"]] := by
    decide +kernel
  have hOnly :
      ∀ e : Expr,
        e.paths.map (·.segments) = [["a"]] →
          ∀ p ∈ e.paths, p.segments = ["a"] := by
    intro e hPaths p hP
    have hMember := List.mem_map_of_mem (f := (·.segments)) hP
    rw [hPaths] at hMember
    simpa using hMember
  rcases Option.map_eq_some_iff.mp hTarget with
    ⟨path, hPath, hSegments⟩
  rcases map_eq_ok_iff.mp hCondition with
    ⟨condition, hReadCondition, hConditionPaths⟩
  rcases map_eq_ok_iff.mp hValue with
    ⟨e, hReadValue, hValuePaths⟩
  refine
    ⟨⟨⟨name, ⟨"a > 0", ⟨line, 15⟩⟩, target,
          ⟨value, ⟨line, 34⟩⟩, ⟨line, 1⟩⟩,
        path, condition, e, hPath, hReadCondition,
        hReadValue⟩,
      rfl, hSegments, ?_⟩
  intro p hP
  rcases List.mem_append.mp hP with hP | hP
  · exact hOnly condition hConditionPaths p hP
  · exact hOnly e hValuePaths p hP

/- A test of two fields that stand side by side. -/
def siblingsTest : Node :=
  ⟨.test, "t", ⟨2, 1⟩,
    [⟨.given, "a = 1", ⟨3, 3⟩, []⟩,
     ⟨.expect, "b.c < b.d", ⟨4, 3⟩, []⟩]⟩

/- Two rules with the test between them. -/
def siblings (first second : Node) : Node :=
  ⟨.program, "", .start, [first, siblingsTest, second]⟩

/-
  Rules that write side by side can be exchanged, because both
  read something else.
-/
theorem Runner.exchange_rules_siblings :
    ∃ r s : CompiledRule,
      r.target.segments = ["b", "c"] ∧
        s.target.segments = ["b", "d"] ∧
        r.Apart s ∧
        let one := positiveRule "r" "b.c" "a" 1
        let two := positiveRule "s" "b.d" "a + 1" 5
        ResultsExchange [] r s (siblings one two).tests
          ((resumed true []).run (siblings one two)).result
          ((resumed true []).run
            (siblings two one)).result := by
  rcases
      exists_compiled_positiveRule "r" 1
        (show (FieldPath.ofText? "b.c").map (·.segments) =
          some ["b", "c"] by decide +kernel)
        (show (compile "a").map (·.paths.map (·.segments)) =
          .ok [["a"]] by decide +kernel) with
    ⟨r, hFirst, hTargetR, hPathsR⟩
  rcases
      exists_compiled_positiveRule "s" 5
        (show (FieldPath.ofText? "b.d").map (·.segments) =
          some ["b", "d"] by decide +kernel)
        (show (compile "a + 1").map (·.paths.map (·.segments)) =
          .ok [["a"]] by decide +kernel) with
    ⟨s, hSecond, hTargetS, hPathsS⟩
  have hApart : r.Apart s := by
    constructor
    · rw [FieldPath.Overlaps, hTargetR, hTargetS]
      decide
    · intro p hP
      rw [FieldPath.Overlaps, hTargetS, hPathsR p hP]
      decide
    · intro p hP
      rw [FieldPath.Overlaps, hTargetR, hPathsS p hP]
      decide
  have hChildren :
      ∀ first second,
        (siblings first second).children =
          [] ++ first :: ([siblingsTest] ++ second :: []) :=
    fun _ _ => rfl
  have hBetween : ∀ node ∈ [siblingsTest], node.rule? = none := by
    simp [siblingsTest, Node.rule?]
  exact
    ⟨r, s, hTargetR, hTargetS, hApart,
      exchange_rules true [] [] (hChildren _ _)
        (hChildren _ _) hFirst hSecond hBetween hApart⟩

end Rulebook
