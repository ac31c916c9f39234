import Rulebook.Proofs.Expr.Faults
import Rulebook.Proofs.Program.Targets
import Rulebook.Proofs.Run.Failures

/-
  The errors of the tests of a source.  Each of them is that of
  one expression in the program tree, which it names by its text
  and its place.

  Key definitions include:
    * `Direct.Raises`
    * `EvalError.ShownBy`
    * `Node.Fails`
    * `EvalError.Blames`

  Main results:
    * `Direct.raises_of_test`
    * `Direct.raises_of_run`
    * `EvalError.blames_of_fails`
    * `Source.errors_of_expressions`
-/

namespace Rulebook

------------------------------------------------------------
-- Errors Of A Test
------------------------------------------------------------

namespace Direct

/- Where the error of a test can come from. -/
inductive Raises
    (rs : List Rule)
    (t : TestCase)
    (e : EvalError) : Prop where
  | given
      {clause : Clause}
      (hClause : clause ∈ t.givens)
      (hError : clause.assignments = .error e)
  | target
      {r : Rule}
      (hRule : r ∈ rs)
      (hTarget : FieldPath.ofText? r.target = none)
  | condition
      {r : Rule}
      (hRule : r ∈ rs)
      (hError : r.condition.expression = .error e)
  | value
      {r : Rule}
      (hRule : r ∈ rs)
      (hError : r.value.expression = .error e)
  | expect
      {clause : Clause}
      (hClause : clause ∈ t.expects)
      (hError : clause.expression = .error e)

variable {rs : List Rule}
variable {t : TestCase}
variable {e : EvalError}

/- A test ends with the error of one of its parts. -/
theorem raises_of_test
    (h : (test rs t).error = some e) : Raises rs t e := by
  have hInterrupted := interrupted_of_test h
  generalize test rs t = tested at hInterrupted
  cases hInterrupted with
  | given hGivens hBefore hError =>
      refine .given ?_ hError
      simp [hGivens]
  | @rule front back r firings env hRules hBefore hFails =>
      have hRule : r ∈ rs := by
        rw [hRules]
        exact List.mem_append_right _ List.mem_cons_self
      cases hFails with
      | target hTarget hFault => exact .target hRule hTarget
      | condition hTarget hOpen hError =>
          exact .condition hRule hError
      | value hTarget hOpen hCondition hHolds hError =>
          exact .value hRule hError
  | expect hExpects hBefore hError =>
      refine .expect ?_ hError
      simp [hExpects]

end Direct

------------------------------------------------------------
-- Errors Of A Run
------------------------------------------------------------

/- An error ends a run, or is kept in the report of a test. -/
def EvalError.ShownBy
    (e : EvalError)
    (result : Except EvalError RunReport) : Prop :=
  result = .error e ∨
    ∃ report,
      result = .ok report ∧
        ∃ tested ∈ report.tests, tested.error = some e

/- The errors that a run shows are those of its tests. -/
theorem Direct.raises_of_run
    {isolates : Bool}
    {program : Node}
    {e : EvalError}
    (h : e.ShownBy (run isolates program)) :
    ∃ t ∈ program.tests, Raises program.rules t e := by
  have hTests :
      ∃ tested ∈ program.tests.map (test program.rules),
        tested.error = some e := by
    rcases h with hEnded | ⟨report, hRun, hReport⟩
    · have hEnded := map_eq_error_iff.mp hEnded
      cases isolates with
      | true =>
          rw [tests_isolated] at hEnded
          cases hEnded
      | false =>
          rcases tests_strict_eq_error_iff.mp hEnded with
            ⟨front, tested, back, hAll, hError, _⟩
          exact ⟨tested, by simp [hAll], hError⟩
    · rw [tests_of_run hRun] at hReport
      exact hReport
  rcases hTests with ⟨tested, hTested, hError⟩
  rcases List.mem_map.mp hTested with ⟨t, hT, rfl⟩
  exact ⟨t, hT, raises_of_test hError⟩

------------------------------------------------------------
-- Blamed Expressions
------------------------------------------------------------

/- Reading the text of a node ends with an error. -/
def Node.Fails
    (node : Node)
    (e : EvalError) : Prop :=
  if node.kind = .given then
    node.clause.assignments = .error e
  else
    node.clause.expression = .error e

namespace EvalError

/-
  An error of a node.  It names the text of the node, the place
  of the node, and a place in the text or right behind it, and
  says what was expected there.
-/
structure Blames
    (node : Node)
    (e : EvalError) : Prop where
  fails : node.Fails e
  expression : e.expression = node.content
  origin : e.origin = some node.position
  place : e.position.Within node.content.length
  fault :
    ∃ expected found, e.fault = .unexpected expected found

variable {node : Node}
variable {tokens : List Token}
variable {e : EvalError}

/- The error is that of a text, told with its place. -/
theorem exists_misreads
    (hTokens : ∀ t ∈ tokens, Respellable t)
    (hContent : node.content = spellingOfTokens tokens)
    (h : node.Fails e) :
    ∃ found : EvalError,
      found.Misreads node.content ∧
        found.locate node.position = e := by
  have hText : node.clause.text = spellingOfTokens tokens :=
    hContent
  rw [hContent]
  unfold Node.Fails at h
  split at h
  · rcases mapError_eq_error_iff.mp h with
      ⟨found, hFound, hLocated⟩
    rw [hText] at hFound
    exact
      ⟨found, misreads_of_compileAssignments hTokens hFound,
        hLocated⟩
  · rcases mapError_eq_error_iff.mp h with
      ⟨found, hFound, hLocated⟩
    rw [hText] at hFound
    exact
      ⟨found, misreads_of_compile hTokens hFound, hLocated⟩

/- A node whose text is made of spellings is to blame. -/
theorem blames_of_fails
    (hTokens : ∀ t ∈ tokens, Respellable t)
    (hContent : node.content = spellingOfTokens tokens)
    (h : node.Fails e) : e.Blames node := by
  rcases exists_misreads hTokens hContent h with
    ⟨found, hMisreads, rfl⟩
  exact
    { fails := h
      expression := hMisreads.expression
      origin := by simp [locate, hMisreads.origin]
      place := hMisreads.place
      fault := hMisreads.fault }

end EvalError

------------------------------------------------------------
-- Sources
------------------------------------------------------------

namespace Grammar

/- A clause of a kind is that of a node of this kind. -/
theorem TestSyntax.exists_of_mem_clausesOf
    {t : TestSyntax}
    {kind : NodeKind}
    {clause : Clause}
    (h : clause ∈ t.clausesOf kind) :
    ∃ entry ∈ t.spans,
      entry.1.kind = kind ∧ entry.1.clause = clause := by
  rcases List.mem_map.mp h with ⟨c, hC, rfl⟩
  rcases List.mem_filter.mp hC with ⟨hIn, hKind⟩
  exact
    ⟨(c.node, c.span), List.mem_map_of_mem hIn,
      of_decide_eq_true hKind, rfl⟩

/- An error of a test is that of an expression. -/
theorem ProgramSyntax.exists_fails
    {source : String}
    {p : ProgramSyntax}
    {t : TestSyntax}
    {e : EvalError}
    (hText : tokenize source = .ok p.tokens)
    (hTest : t ∈ p.tests)
    (h :
      Direct.Raises (p.rules.map RuleSyntax.rule)
        t.testCase e) :
    ∃ entry ∈ p.spans, entry.1.Fails e := by
  have hSpans : ∀ entry ∈ t.spans, entry ∈ p.spans :=
    fun _ hEntry =>
      mem_spans_of_construct (mem_constructs_of_test hTest)
        hEntry
  cases h with
  | @given clause hClause hError =>
      rcases t.exists_of_mem_clausesOf hClause with
        ⟨entry, hEntry, hKind, rfl⟩
      refine ⟨entry, hSpans entry hEntry, ?_⟩
      rw [Node.Fails, if_pos hKind]
      exact hError
  | @target r hRule hTarget =>
      rcases List.mem_map.mp hRule with ⟨r, hR, rfl⟩
      -- This never occurs: every target is a path.
      rcases Source.ofText?_target hText r hR with
        ⟨path, hPath, _⟩
      have hSame : r.rule.target = r.target := rfl
      rw [hSame, hPath] at hTarget
      cases hTarget
  | @condition r hRule hError =>
      rcases List.mem_map.mp hRule with ⟨r, hR, rfl⟩
      exact
        ⟨(r.whenNode, r.condition),
          mem_spans_of_construct (mem_constructs_of_rule hR)
            (.head _),
          hError⟩
  | @value r hRule hError =>
      rcases List.mem_map.mp hRule with ⟨r, hR, rfl⟩
      exact
        ⟨(r.valueNode, r.value),
          mem_spans_of_construct (mem_constructs_of_rule hR)
            (.tail _ (.head _)),
          hError⟩
  | @expect clause hClause hError =>
      rcases t.exists_of_mem_clausesOf hClause with
        ⟨entry, hEntry, hKind, rfl⟩
      refine ⟨entry, hSpans entry hEntry, ?_⟩
      rw [Node.Fails, if_neg (by simp [hKind])]
      exact hError

end Grammar

open Grammar

/-
  The program tree of a source, whatever was run before:
    * the targets of its rules are paths, and their segments are
      the names that were read for them;
    * the errors that its run shows are those of expressions in
      the tree.
-/
theorem Source.errors_of_expressions
    {source : String}
    {tree : Node}
    (h : program source = .ok tree) :
    (∃ p : ProgramSyntax,
      tokenize source = .ok p.tokens ∧
        p.EndsLines ∧
        p.node = tree ∧
        tree.rules = p.rules.map RuleSyntax.rule ∧
        ∀ r ∈ p.rules,
          ∃ path,
            FieldPath.ofText? r.rule.target = some path ∧
              path.segments =
                identifiers (r.first :: r.more)) ∧
      ∀ isolates history (e : EvalError),
        e.ShownBy
            ((Runner.resumed isolates history).run
              tree).result →
          ∃ node ∈ tree.expressions, e.Blames node := by
  rcases program_eq_ok_iff.mp h with ⟨p, hText, hEnds, rfl⟩
  refine
    ⟨⟨p, hText, hEnds, rfl, p.rules_node,
      ofText?_target hText⟩, ?_⟩
  intro isolates history e hShown
  rw [Runner.resumed_result] at hShown
  rcases Direct.raises_of_run hShown with ⟨t, hT, hRaises⟩
  rw [p.tests_node] at hT
  rcases List.mem_map.mp hT with ⟨t, hTest, rfl⟩
  rw [p.rules_node] at hRaises
  rcases ProgramSyntax.exists_fails hText hTest hRaises with
    ⟨⟨node, span⟩, hSpan, hFails⟩
  have hTokens : ∀ t ∈ span, Respellable t :=
    respellable_of_mem_spans hText hSpan
  have hContent : node.content = spellingOfTokens span :=
    (ProgramSyntax.spells_of_mem_spans hSpan).1
  refine ⟨node, ?_, ?_⟩
  · rw [p.expressions_node]
    exact List.mem_map_of_mem hSpan
  · exact EvalError.blames_of_fails hTokens hContent hFails

/- A rule whose value breaks off, and a test that needs it. -/
def brokenOff : String :=
  "rule \"r\" when a then b . c = 1 +\n" ++
    "test \"t\" \x7b\n" ++
    "  given a = 1\n" ++
    "  expect b.c == 1\n" ++
    "\x7d\n"

/- The error is noticed at the end of the text of the value. -/
theorem Source.errors_of_expressions_broken_off :
    ∃ tree e node,
      program brokenOff = .ok tree ∧
        ((Runner.resumed false []).run tree).result =
          .error e ∧
        node ∈ tree.expressions ∧
        e.Blames node ∧
        e.expression = "1 +" ∧
        e.position = ⟨1, 4⟩ := by
  have hSeen :
      (program brokenOff).map
          (fun tree =>
            match
              ((Runner.resumed false []).run tree).result with
            | .ok _ => none
            | .error e => some (e.expression, e.position)) =
        .ok (some ("1 +", ⟨1, 4⟩)) := by
    decide +kernel
  rcases map_eq_ok_iff.mp hSeen with ⟨tree, hTree, hRun⟩
  cases hResult :
      ((Runner.resumed false []).run tree).result with
  | ok report =>
      rw [hResult] at hRun
      cases hRun
  | error e =>
      rw [hResult] at hRun
      rcases Prod.mk.inj (Option.some.inj hRun) with
        ⟨hExpression, hPosition⟩
      rcases (errors_of_expressions hTree).2 false [] e
          (.inl hResult) with
        ⟨node, hNode, hBlames⟩
      exact
        ⟨tree, e, node, hTree, hResult, hNode, hBlames,
          hExpression, hPosition⟩

end Rulebook
