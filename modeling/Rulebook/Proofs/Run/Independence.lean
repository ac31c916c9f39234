import Rulebook.Proofs.Run.Firings

/-
  Tests do not see one another.  A run shows nothing of a
  program but its rules in their order and, of each test, its
  name and its two sequences of clauses.

  Key definitions include:
    * `TestCase.SameContent`
    * `Node.Reinterleaves`
    * `Node.only`
    * `Node.reported`
    * `Node.Rearranges`

  Main results:
    * `Direct.run_congr`
    * `Direct.run_only`
    * `Direct.reported_perm`
    * `Runner.tests_independent`
-/

namespace Rulebook

------------------------------------------------------------
-- What A Test Shows Of Itself
------------------------------------------------------------

/- Tests that differ in their places at most. -/
def TestCase.SameContent (t u : TestCase) : Prop :=
  t.name = u.name ∧
    t.givens = u.givens ∧
    t.expects = u.expects

namespace Direct

/- The place of a test does not show in its report. -/
theorem test_congr
    {rs : List Rule}
    {t u : TestCase}
    (h : t.SameContent u) :
    test rs t = test rs u := by
  rcases h with ⟨hName, hGivens, hExpects⟩
  unfold test
  rw [hName, hGivens, hExpects]

/- Neither do the places of tests in a result. -/
theorem tests_congr
    {isolates : Bool}
    {rs : List Rule}
    {ts us : List TestCase}
    (h : List.Forall₂ TestCase.SameContent ts us) :
    tests isolates rs ts = tests isolates rs us := by
  induction h with
  | nil => rfl
  | cons hOne _ ih => simp only [tests, test_congr hOne, ih]

/- A run looks at nothing but rules, names and clauses. -/
theorem run_congr
    {isolates : Bool}
    {program other : Node}
    (hRules : other.rules = program.rules)
    (hTests :
      List.Forall₂ TestCase.SameContent
        other.tests program.tests) :
    run isolates other = run isolates program := by
  unfold run
  rw [hRules, tests_congr hTests]

end Direct

------------------------------------------------------------
-- Test Nodes
------------------------------------------------------------

namespace Node

/- The test case of a node that is a test. -/
def testCase (node : Node) : TestCase where
  name := node.content
  givens := (node.childrenOf .given).map clause
  expects := (node.childrenOf .expect).map clause
  position := node.position

theorem test?_of_kind
    {node : Node}
    (h : node.kind = .test) :
    node.test? = some node.testCase :=
  if_pos h

/- The tests of a program are the cases of its test nodes. -/
theorem tests_eq_map (program : Node) :
    program.tests =
      (program.childrenOf .test).map testCase := by
  unfold tests childrenOf
  induction program.children with
  | nil => rfl
  | cons child children ih =>
      by_cases hTest : child.kind = .test
      · rw [List.filterMap_cons_some (test?_of_kind hTest),
          List.filter_cons_of_pos (by simpa using hTest),
          List.map_cons, ih]
      · have hNone : child.test? = none := if_neg hTest
        rw [List.filterMap_cons_none hNone,
          List.filter_cons_of_neg (by simpa using hTest), ih]

/-
  One test node is the other with its clauses mixed in another
  way: given lines among themselves and expectations among
  themselves are in the same order.
-/
structure Reinterleaves (node other : Node) : Prop where
  kind : node.kind = .test
  other_kind : other.kind = .test
  content : node.content = other.content
  givens : node.childrenOf .given = other.childrenOf .given
  expects : node.childrenOf .expect = other.childrenOf .expect

/- No rule is lost or added by this, and tests stay alike. -/
theorem views_of_reinterleaves
    {children others : List Node}
    (h :
      List.Forall₂
        (fun child other =>
          child = other ∨ child.Reinterleaves other)
        children others) :
    children.filterMap rule? = others.filterMap rule? ∧
      List.Forall₂ TestCase.SameContent
        (children.filterMap test?)
        (others.filterMap test?) := by
  induction h with
  | nil => exact ⟨rfl, .nil⟩
  | @cons child other children others hOne _ ih =>
      rcases ih with ⟨hRules, hTests⟩
      rcases hOne with rfl | hMixed
      · constructor
        · simp only [List.filterMap_cons, hRules]
        · cases hTest : child.test? with
          | none => simpa [hTest] using hTests
          | some t =>
              simp only [List.filterMap_cons_some hTest]
              exact .cons ⟨rfl, rfl, rfl⟩ hTests
      · -- A test is no rule, however its clauses are mixed.
        constructor
        · simpa [rule?, hMixed.kind, hMixed.other_kind]
            using hRules
        · rw [List.filterMap_cons_some
                (test?_of_kind hMixed.kind),
            List.filterMap_cons_some
                (test?_of_kind hMixed.other_kind)]
          refine .cons ⟨hMixed.content, ?_, ?_⟩ hTests
          · simp only [testCase, hMixed.givens]
          · simp only [testCase, hMixed.expects]

------------------------------------------------------------
-- Programs And Their Reports
------------------------------------------------------------

/- All the rules of a program, and one node behind them. -/
def only (program node : Node) : Node :=
  { program with
    children := program.childrenOf .rule ++ [node] }

/- The test nodes of a program, each with its report. -/
def reported
    (program : Node)
    (report : RunReport) : List (Node × TestReport) :=
  (program.childrenOf .test).zip report.tests

/- The same children in an order that keeps that of rules. -/
structure Rearranges (program other : Node) : Prop where
  children : program.children.Perm other.children
  rules : program.rules = other.rules

/- Rules are found among the nodes of their kind. -/
theorem filterMap_rule?_childrenOf (program : Node) :
    (program.childrenOf .rule).filterMap rule? =
      program.rules := by
  unfold childrenOf rules
  rw [List.filterMap_filter]
  congr 1
  funext child
  by_cases hRule : child.kind = .rule
  · simp [hRule]
  · simp [rule?, hRule]

theorem rules_only
    {program node : Node}
    (h : node.kind = .test) :
    (program.only node).rules = program.rules := by
  have hNone : node.rule? = none := by simp [rule?, h]
  calc
    (program.only node).rules
    _ = (program.childrenOf .rule).filterMap rule? ++
          [node].filterMap rule? := List.filterMap_append
    _ = program.rules := by
        rw [filterMap_rule?_childrenOf]
        simp [hNone]

theorem tests_only
    {program node : Node}
    (h : node.kind = .test) :
    (program.only node).tests = [node.testCase] := by
  have hNone :
      (program.childrenOf .rule).filterMap test? = [] := by
    rw [List.filterMap_eq_nil_iff]
    intro child hChild
    have hRule : child.kind = .rule := by
      simpa using (List.mem_filter.mp hChild).2
    simp [test?, hRule]
  calc
    (program.only node).tests
    _ = (program.childrenOf .rule).filterMap test? ++
          [node].filterMap test? := List.filterMap_append
    _ = [node.testCase] := by
        simp [hNone, test?_of_kind h]

end Node

------------------------------------------------------------
-- Direct Runs
------------------------------------------------------------

namespace Direct

/- The report of a run that isolates failures. -/
def report (program : Node) : RunReport :=
  ⟨(program.childrenOf .test).map
    fun node => test program.rules node.testCase⟩

theorem run_isolated (program : Node) :
    run true program = .ok (report program) := by
  unfold run report
  rw [tests_isolated, Node.tests_eq_map, List.map_map]
  rfl

/- Each test node is reported as it goes by itself. -/
theorem reported_report (program : Node) :
    program.reported (report program) =
      (program.childrenOf .test).map fun node =>
        (node, test program.rules node.testCase) := by
  unfold Node.reported report
  rw [← List.zip_map', List.map_id']

/- A test says the same when it is the only one. -/
theorem run_only
    {program node : Node}
    {tested : TestReport}
    (h :
      (node, tested) ∈ program.reported (report program)) :
    run true (program.only node) = .ok ⟨[tested]⟩ := by
  rw [reported_report] at h
  rcases List.mem_map.mp h with ⟨found, hFound, hPair⟩
  rcases Prod.mk.inj hPair with ⟨rfl, rfl⟩
  have hTest : found.kind = .test := by
    simpa using (List.mem_filter.mp hFound).2
  unfold run
  rw [tests_isolated, Node.rules_only hTest,
    Node.tests_only hTest]
  rfl

/- Reports go along with their tests. -/
theorem reported_perm
    {program other : Node}
    (h : other.Rearranges program) :
    (other.reported (report other)).Perm
      (program.reported (report program)) := by
  rw [reported_report, reported_report, h.rules]
  exact (h.children.filter _).map _

/- The reports themselves are in another order at most. -/
theorem tests_report_perm
    {program other : Node}
    (h : other.Rearranges program) :
    (report other).tests.Perm (report program).tests := by
  have hReported := (reported_perm h).map Prod.snd
  rw [reported_report, reported_report, List.map_map,
    List.map_map] at hReported
  exact hReported

end Direct

------------------------------------------------------------
-- Runs
------------------------------------------------------------

/-
  Whatever was run before:
    * every test is reported as in the program that has all the
      rules and this test only;
    * programs with the same rules, and with tests of the same
      contents, have the same result;
    * other orders of tests and rules that keep the order of the
      rules give the same reports to the same tests;
    * other orders of the clauses of a test that keep the order
      of its given lines and that of its expectations do not
      show at all.
-/
theorem Runner.tests_independent
    (history history' : List (Bool × Node))
    (program : Node) :
    ∃ report : RunReport,
      ((resumed true history).run program).result =
          .ok report ∧
        report.tests.length =
          (program.childrenOf .test).length ∧
        (∀ node tested,
          (node, tested) ∈ program.reported report →
            ((resumed true history').run
                (program.only node)).result =
              .ok ⟨[tested]⟩) ∧
        (∀ isolates other,
          other.rules = program.rules →
            List.Forall₂ TestCase.SameContent
                other.tests program.tests →
              ((resumed isolates history').run other).result =
                ((resumed isolates history).run
                  program).result) ∧
        (∀ other,
          other.Rearranges program →
            ∃ report' : RunReport,
              ((resumed true history').run other).result =
                  .ok report' ∧
                report'.tests.length =
                  (other.childrenOf .test).length ∧
                (other.reported report').Perm
                  (program.reported report) ∧
                report'.passed = report.passed ∧
                report'.failed = report.failed) ∧
        (∀ isolates other,
          List.Forall₂
              (fun child child' =>
                child = child' ∨ child.Reinterleaves child')
              other.children program.children →
            ((resumed isolates history').run other).result =
              ((resumed isolates history).run
                program).result) := by
  simp only [resumed_result]
  refine
    ⟨Direct.report program, Direct.run_isolated program, ?_,
      ?_, ?_, ?_, ?_⟩
  · exact List.length_map _
  · intro node tested hReported
    exact Direct.run_only hReported
  · intro isolates other hRules hTests
    exact Direct.run_congr hRules hTests
  · intro other hOther
    have hPerm := Direct.tests_report_perm hOther
    have hPassed :
        (Direct.report other).passed =
          (Direct.report program).passed :=
      hPerm.countP_eq _
    refine
      ⟨Direct.report other, Direct.run_isolated other,
        List.length_map _, Direct.reported_perm hOther,
        hPassed, ?_⟩
    unfold RunReport.failed
    rw [hPassed, hPerm.length_eq]
  · intro isolates other hChildren
    have hViews := Node.views_of_reinterleaves hChildren
    exact Direct.run_congr hViews.1 hViews.2

/- A test whose given line assigns nothing to a field. -/
def brokenTest : Node :=
  ⟨.test, "broken", ⟨2, 1⟩,
    [⟨.given, "a =", ⟨3, 3⟩, []⟩]⟩

/- A test that a rule makes pass. -/
def soundTest : Node :=
  ⟨.test, "sound", ⟨5, 1⟩,
    [⟨.expect, "b == 2", ⟨6, 3⟩, []⟩,
     ⟨.given, "a = 1", ⟨7, 3⟩, []⟩]⟩

def brokenFirst : Node :=
  ⟨.program, "", .start,
    [brokenTest, positiveRule "r" "b" "a + 1" 1, soundTest]⟩

def brokenLast : Node :=
  ⟨.program, "", .start,
    [positiveRule "r" "b" "a + 1" 1, soundTest, brokenTest]⟩

/- Their reports change places, also behind a broken run. -/
theorem Runner.tests_independent_broken :
    ∃ report report' : RunReport,
      ((resumed true []).run brokenFirst).result =
          .ok report ∧
        ((resumed true [(false, brokenFirst)]).run
            brokenLast).result =
          .ok report' ∧
        report.tests.map (·.passed) = [false, true] ∧
        report'.tests.map (·.passed) = [true, false] ∧
        (brokenLast.reported report').Perm
          (brokenFirst.reported report) := by
  have hMoved : brokenLast.Rearranges brokenFirst :=
    ⟨@List.perm_append_comm _
      [positiveRule "r" "b" "a + 1" 1, soundTest]
      [brokenTest], rfl⟩
  have hSeen :
      ((resumed true []).run brokenFirst).result.map
          (·.tests.map (·.passed)) =
        .ok [false, true] := by
    decide +kernel
  have hSeenMoved :
      ((resumed true [(false, brokenFirst)]).run
            brokenLast).result.map
          (·.tests.map (·.passed)) =
        .ok [true, false] := by
    decide +kernel
  rcases tests_independent [] [(false, brokenFirst)]
    brokenFirst with ⟨report, hRun, _, _, _, hOrders, _⟩
  rcases hOrders brokenLast hMoved with
    ⟨report', hRun', _, hPerm, _, _⟩
  rw [hRun] at hSeen
  rw [hRun'] at hSeenMoved
  exact
    ⟨report, report', hRun, hRun', Except.ok.inj hSeen,
      Except.ok.inj hSeenMoved, hPerm⟩

end Rulebook
