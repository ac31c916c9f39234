import Rulebook.Proofs.Expr.Assignments
import Rulebook.Proofs.Program.Related
import Rulebook.Proofs.Program.Targets
import Rulebook.Proofs.Run.Isolation
import Rulebook.Proofs.Run.Stages

/-
  Sources with the same tokens mean the same.  Layout, comments
  and the case of keywords show nowhere but in the texts of
  expectations and in errors.

  Key definitions include:
    * `Clause.Alike`
    * `Rule.Alike`
    * `TestCase.Alike`
    * `TestReport.Alike`
    * `RunReport.Alike`

  Main results:
    * `Grammar.ProgramSyntax.Related.alike`
    * `Direct.test_same`
    * `Direct.run_same`
    * `Source.meaning_of_tokens`
-/

namespace Rulebook

------------------------------------------------------------
-- Views That Say The Same
------------------------------------------------------------

/- Two clauses that can be compiled to the same only. -/
structure Clause.Alike (c d : Clause) : Prop where
  tokens : SameTokens c.text d.text
  expression :
    AlikeResults (· = ·) c.expression d.expression
  assignments :
    AlikeResults (· = ·) c.assignments d.assignments

/- Two rules with the same name, target and parts. -/
structure Rule.Alike (r s : Rule) : Prop where
  name : r.name = s.name
  condition : r.condition.Alike s.condition
  target : r.target = s.target
  value : r.value.Alike s.value

/- Two tests with the same name and clauses. -/
structure TestCase.Alike (t u : TestCase) : Prop where
  name : t.name = u.name
  givens : List.Forall₂ Clause.Alike t.givens u.givens
  expects : List.Forall₂ Clause.Alike t.expects u.expects

/- Expectations with the same outcome and the same tokens. -/
structure ExpectOutcome.Alike
    (o o' : ExpectOutcome) : Prop where
  expression : SameTokens o.expression o'.expression
  passed : o.passed = o'.passed

/- Two tests that did the same, or ended at the same point. -/
structure TestReport.Alike (r s : TestReport) : Prop where
  name : r.name = s.name
  firings : r.firings = s.firings
  expects :
    List.Forall₂ ExpectOutcome.Alike r.expects s.expects
  environment : r.environment = s.environment
  error : r.error.isSome = s.error.isSome

/- Two runs whose tests did the same. -/
def RunReport.Alike (r s : RunReport) : Prop :=
  List.Forall₂ TestReport.Alike r.tests s.tests

------------------------------------------------------------
-- Programs That Say The Same
------------------------------------------------------------

namespace Grammar

theorem keepsKinds_alike : KeepsKinds Token.Alike :=
  fun _ _ h => h.kind

/- Spans that say the same are kept as clauses that do. -/
theorem alike_of_spans
    {span other : List Token}
    {place place' : Position}
    (hSpan : ∀ t ∈ span, Respellable t)
    (hOther : ∀ t ∈ other, Respellable t)
    (h : List.Forall₂ Token.Alike span other) :
    Clause.Alike ⟨spellingOfTokens span, place⟩
      ⟨spellingOfTokens other, place'⟩ where
  tokens := sameTokens_of_spellings hSpan hOther h
  expression := by
    apply alikeResults_of_ok_iff
    intro e
    unfold Clause.expression
    rw [mapError_eq_ok_iff, mapError_eq_ok_iff,
      compile_spellingOfTokens_eq_ok_iff hSpan,
      compile_spellingOfTokens_eq_ok_iff hOther]
    exact derives_iff_of_alike h
  assignments := by
    apply alikeResults_of_ok_iff
    intro list
    unfold Clause.assignments
    rw [mapError_eq_ok_iff, mapError_eq_ok_iff,
      compileAssignments_spellingOfTokens_eq_ok_iff hSpan,
      compileAssignments_spellingOfTokens_eq_ok_iff hOther]
    exact assignsAll_iff_of_alike h

/- The lexeme of a string is not told by its kind. -/
theorem name_of_alike
    {t u : Token}
    (h : t.Alike u)
    (hName : t.kind = .string) : t.lexeme = u.lexeme :=
  h.lexeme (by rw [hName]; rfl)

/- Rules that say the same have the same target. -/
theorem RuleSyntax.Related.target
    {r s : RuleSyntax}
    (h : r.Related Token.Alike s) : r.target = s.target := by
  have hNames : r.names = s.names := by
    rw [(r.hMore.of_alike h.more).eq_identifiers,
      s.hMore.eq_identifiers]
  unfold RuleSyntax.target
  rw [lexeme_of_alike h.first r.hFirst, hNames]

variable {source source' : String}
variable {p q : ProgramSyntax}

/- The rules of programs that say the same. -/
theorem ProgramSyntax.Related.alike_rules
    (h : p.Related Token.Alike q)
    (hText : tokenize source = .ok p.tokens)
    (hText' : tokenize source' = .ok q.tokens) :
    List.Forall₂ Rule.Alike p.node.rules q.node.rules := by
  rw [p.rules_node, q.rules_node,
    List.forall₂_map_left_iff, List.forall₂_map_right_iff]
  refine (forall₂_mem h.rules).imp ?_
  rintro r s ⟨hR, hS, hRule⟩
  have hSpans :
      ∀ entry ∈ r.spans, ∀ t ∈ entry.2, Respellable t :=
    fun entry hEntry =>
      Source.respellable_of_mem_spans hText
        (mem_spans_of_construct (mem_constructs_of_rule hR)
          hEntry)
  have hSpans' :
      ∀ entry ∈ s.spans, ∀ t ∈ entry.2, Respellable t :=
    fun entry hEntry =>
      Source.respellable_of_mem_spans hText'
        (mem_spans_of_construct (mem_constructs_of_rule hS)
          hEntry)
  exact
    { name := name_of_alike hRule.name r.hName
      condition :=
        alike_of_spans
          (hSpans (r.whenNode, r.condition) (.head _))
          (hSpans' (s.whenNode, s.condition) (.head _))
          hRule.condition
      target := hRule.target
      value :=
        alike_of_spans
          (hSpans (r.valueNode, r.value) (.tail _ (.head _)))
          (hSpans' (s.valueNode, s.value) (.tail _ (.head _)))
          hRule.value }

/- The clauses of tests that say the same. -/
theorem TestSyntax.Related.alike_clausesOf
    {t u : TestSyntax}
    (h : t.Related Token.Alike u)
    (hSpans :
      ∀ entry ∈ t.spans, ∀ t ∈ entry.2, Respellable t)
    (hSpans' :
      ∀ entry ∈ u.spans, ∀ t ∈ entry.2, Respellable t)
    (kind : NodeKind) :
    List.Forall₂ Clause.Alike
      (t.clausesOf kind) (u.clausesOf kind) := by
  unfold TestSyntax.clausesOf
  rw [List.forall₂_map_left_iff, List.forall₂_map_right_iff]
  have hKept :
      List.Forall₂
        (fun c d =>
          c ∈ t.clauses ∧ d ∈ u.clauses ∧
            c.Related Token.Alike d)
        (t.clauses.filter (·.kind = kind))
        (u.clauses.filter (·.kind = kind)) := by
    refine List.rel_filter ?_ (forall₂_mem h.clauses)
    rintro c d ⟨_, _, hClause⟩
    simp only [hClause.kind]
  refine hKept.imp ?_
  rintro c d ⟨hC, hD, hClause⟩
  exact
    alike_of_spans
      (hSpans (c.node, c.span) (List.mem_map_of_mem hC))
      (hSpans' (d.node, d.span) (List.mem_map_of_mem hD))
      hClause.span

/- The tests of programs that say the same. -/
theorem ProgramSyntax.Related.alike_tests
    (h : p.Related Token.Alike q)
    (hText : tokenize source = .ok p.tokens)
    (hText' : tokenize source' = .ok q.tokens) :
    List.Forall₂ TestCase.Alike p.node.tests q.node.tests := by
  rw [p.tests_node, q.tests_node,
    List.forall₂_map_left_iff, List.forall₂_map_right_iff]
  refine (forall₂_mem h.tests).imp ?_
  rintro t u ⟨hT, hU, hTest⟩
  have hClauses :=
    hTest.alike_clausesOf
      (fun entry hEntry =>
        Source.respellable_of_mem_spans hText
          (mem_spans_of_construct (mem_constructs_of_test hT)
            hEntry))
      (fun entry hEntry =>
        Source.respellable_of_mem_spans hText'
          (mem_spans_of_construct (mem_constructs_of_test hU)
            hEntry))
  exact
    ⟨name_of_alike hTest.name t.hName, hClauses .given,
      hClauses .expect⟩

end Grammar

------------------------------------------------------------
-- Direct Runs
------------------------------------------------------------

/- Two ends are both without an error, or both with one. -/
theorem none_or_some_of_isSome
    {α β : Type}
    {o : Option α}
    {o' : Option β}
    (h : o.isSome = o'.isSome) :
    (o = none ∧ o' = none) ∨
      ∃ a b, o = some a ∧ o' = some b := by
  cases o with
  | none =>
      cases o' with
      | none => exact .inl ⟨rfl, rfl⟩
      | some b => cases h
  | some a =>
      cases o' with
      | none => cases h
      | some b => exact .inr ⟨a, b, rfl, rfl⟩

namespace Direct

/- Given lines that say the same do the same. -/
theorem givens_same
    {clauses others : List Clause}
    (h : List.Forall₂ Clause.Alike clauses others)
    (env : Environment) :
    (givens clauses env).1 = (givens others env).1 ∧
      (givens clauses env).2.isSome =
        (givens others env).2.isSome := by
  induction h generalizing env with
  | nil => exact ⟨rfl, rfl⟩
  | cons hFirst _ ih =>
      cases hFirst.assignments with
      | errors hError hError' => simp [givens, hError, hError']
      | values hValue hValue' hSame =>
          simp only [givens, hValue, hValue', hSame]
          exact ih _

/- Rules that say the same come to the same. -/
theorem firing?_same
    {r s : Rule}
    (h : r.Alike s)
    (assigned : List FieldPath)
    (env : Environment) :
    AlikeResults (· = ·) (firing? r assigned env)
      (firing? s assigned env) := by
  unfold firing?
  rw [h.target, h.name]
  cases FieldPath.ofText? s.target with
  | none => exact .errors rfl rfl
  | some target =>
      by_cases hAssigned : target ∈ assigned
      · simp only [if_pos hAssigned]
        exact .values rfl rfl rfl
      simp only [if_neg hAssigned]
      cases h.condition.expression with
      | errors hError hError' =>
          rw [hError, hError']
          exact .errors rfl rfl
      | values hCondition hCondition' hSame =>
          subst hSame
          rw [hCondition, hCondition']
          simp only
          split
          · cases h.value.expression with
            | errors hError hError' =>
                rw [hError, hError']
                exact .errors rfl rfl
            | values hValue hValue' hSame =>
                subst hSame
                rw [hValue, hValue']
                exact .values rfl rfl rfl
          · exact .values rfl rfl rfl

theorem rules_same
    {rs ss : List Rule}
    (h : List.Forall₂ Rule.Alike rs ss)
    (state : State) :
    (rules rs state).1 = (rules ss state).1 ∧
      (rules rs state).2.isSome =
        (rules ss state).2.isSome := by
  induction h generalizing state with
  | nil => exact ⟨rfl, rfl⟩
  | cons hFirst _ ih =>
      cases firing?_same hFirst state.assigned
          state.environment with
      | errors hError hError' => simp [rules, hError, hError']
      | values hValue hValue' hSame =>
          rw [rules_of_firing? hValue,
            rules_of_firing? hValue', hSame]
          exact ih _

/- Expectations that say the same have the same outcome. -/
theorem expects_same
    {clauses others : List Clause}
    (h : List.Forall₂ Clause.Alike clauses others)
    (env : Environment) :
    List.Forall₂ ExpectOutcome.Alike
        (expects env clauses).1 (expects env others).1 ∧
      (expects env clauses).2.isSome =
        (expects env others).2.isSome := by
  induction h with
  | nil => exact ⟨.nil, rfl⟩
  | cons hFirst _ ih =>
      cases hFirst.expression with
      | errors hError hError' => simp [expects, hError, hError']
      | values hValue hValue' hSame =>
          simp only [expects, hValue, hValue', hSame]
          exact ⟨.cons ⟨hFirst.tokens, rfl⟩ ih.1, ih.2⟩

/- Tests that say the same report the same. -/
theorem test_same
    {rs ss : List Rule}
    {t u : TestCase}
    (hRules : List.Forall₂ Rule.Alike rs ss)
    (hTest : t.Alike u) :
    (test rs t).Alike (test ss u) := by
  rcases hGivens : givens t.givens .empty with ⟨env, error⟩
  rcases hGivens' : givens u.givens .empty with
    ⟨env', error'⟩
  have hSameGivens := givens_same hTest.givens .empty
  rw [hGivens, hGivens'] at hSameGivens
  rcases hSameGivens with ⟨rfl, hEnd⟩
  -- Both tests go on from one environment, or both end here.
  rcases none_or_some_of_isSome hEnd with
    ⟨rfl, rfl⟩ | ⟨e, e', rfl, rfl⟩
  · rcases hState : rules rs ⟨[], env⟩ with ⟨state, error⟩
    rcases hState' : rules ss ⟨[], env⟩ with ⟨state', error'⟩
    have hSameRules := rules_same hRules ⟨[], env⟩
    rw [hState, hState'] at hSameRules
    rcases hSameRules with ⟨rfl, hEnd⟩
    rcases none_or_some_of_isSome hEnd with
      ⟨rfl, rfl⟩ | ⟨e, e', rfl, rfl⟩
    · have hExpects :=
        expects_same hTest.expects state.environment
      rw [test_of_rules hGivens hState,
        test_of_rules hGivens' hState']
      exact ⟨hTest.name, rfl, hExpects.1, rfl, hExpects.2⟩
    · rw [test_of_rules_error hGivens hState,
        test_of_rules_error hGivens' hState']
      exact ⟨hTest.name, rfl, .nil, rfl, rfl⟩
  · rw [test_of_givens_error hGivens,
      test_of_givens_error hGivens']
    exact ⟨hTest.name, rfl, .nil, rfl, rfl⟩

/- So tests in a row report the same. -/
theorem tests_same
    {rs ss : List Rule}
    {ts us : List TestCase}
    (isolates : Bool)
    (hRules : List.Forall₂ Rule.Alike rs ss)
    (hTests : List.Forall₂ TestCase.Alike ts us) :
    AlikeResults (List.Forall₂ TestReport.Alike)
      (tests isolates rs ts) (tests isolates ss us) := by
  induction hTests with
  | nil => exact .values rfl rfl .nil
  | @cons t u ts us hFirst _ ih =>
      have hReport := test_same hRules hFirst
      have hMore :
          AlikeResults (List.Forall₂ TestReport.Alike)
            ((tests isolates rs ts).map (test rs t :: ·))
            ((tests isolates ss us).map (test ss u :: ·)) :=
        ih.map fun _ _ hOthers => .cons hReport hOthers
      rcases none_or_some_of_isSome hReport.error with
        ⟨hError, hError'⟩ | ⟨e, e', hError, hError'⟩
      · simpa only [tests, hError, hError'] using hMore
      · simp only [tests, hError, hError']
        cases isolates with
        | true => exact hMore
        | false => exact .errors rfl rfl

/- Programs with tests and rules that say the same. -/
theorem run_same
    {program other : Node}
    (isolates : Bool)
    (hRules :
      List.Forall₂ Rule.Alike program.rules other.rules)
    (hTests :
      List.Forall₂ TestCase.Alike
        program.tests other.tests) :
    AlikeResults RunReport.Alike
      (run isolates program) (run isolates other) :=
  (tests_same isolates hRules hTests).map fun _ _ h => h

end Direct

------------------------------------------------------------
-- Sources
------------------------------------------------------------

namespace Source

open Grammar

/- A source with the tokens of an accepted one is accepted. -/
theorem exists_alike
    {source source' : String}
    {tree : Node}
    (h : SameTokens source source')
    (hTree : program source = .ok tree) :
    ∃ tree',
      program source' = .ok tree' ∧
        List.Forall₂ Rule.Alike tree.rules tree'.rules ∧
        List.Forall₂ TestCase.Alike
          tree.tests tree'.tests := by
  rcases h with ⟨tokens, tokens', hText, hText', hSame⟩
  rcases program_eq_ok_iff.mp hTree with
    ⟨p, hTokens, hEnds, rfl⟩
  have hBoth : p.tokens = tokens := by
    rw [hTokens] at hText
    exact Except.ok.inj hText
  rw [← hBoth] at hSame
  rcases p.exists_related keepsKinds_alike hSame with
    ⟨q, rfl, hRelated⟩
  exact
    ⟨q.node,
      program_eq_ok_iff.mpr
        ⟨q, hText', hEnds.of_related keepsKinds_alike hRelated,
          rfl⟩,
      hRelated.alike_rules hTokens hText',
      hRelated.alike_tests hTokens hText'⟩

/- Trees of which the rules and tests say the same. -/
theorem run_alike
    {tree tree' : Node}
    (hRules : List.Forall₂ Rule.Alike tree.rules tree'.rules)
    (hTests :
      List.Forall₂ TestCase.Alike tree.tests tree'.tests)
    (isolates : Bool)
    (history history' : List (Bool × Node)) :
    AlikeResults RunReport.Alike
      ((Runner.resumed isolates history).run tree).result
      ((Runner.resumed isolates history').run
        tree').result := by
  rw [Runner.resumed_result, Runner.resumed_result]
  exact Direct.run_same isolates hRules hTests

/-
  Sources with the same tokens are both accepted or both not.
  If they are, their trees have alike results, whatever was run
  before, and so have the runs of the sources themselves.
-/
theorem meaning_of_tokens
    {source source' : String}
    (h : SameTokens source source') :
    AlikeResults
        (fun tree tree' =>
          ∀ isolates history history',
            AlikeResults RunReport.Alike
              ((Runner.resumed isolates history).run
                tree).result
              ((Runner.resumed isolates history').run
                tree').result)
        (program source) (program source') ∧
      ∀ isolates,
        AlikeResults RunReport.Alike
          (run isolates source) (run isolates source') := by
  cases hTree : program source with
  | ok tree =>
      rcases exists_alike h hTree with
        ⟨tree', hTree', hRules, hTests⟩
      have hRun := run_alike hRules hTests
      refine ⟨.values rfl hTree' hRun, ?_⟩
      intro isolates
      simp only [run, hTree, hTree']
      exact (hRun isolates [] []).mapError
  | error error =>
      cases hTree' : program source' with
      | ok tree' =>
          rcases exists_alike h.symm hTree' with
            ⟨tree, hOther, _⟩
          rw [hTree] at hOther
          cases hOther
      | error error' =>
          refine ⟨.errors rfl rfl, ?_⟩
          intro isolates
          simp only [run, hTree, hTree']
          exact .errors rfl rfl

/- A rule and a test that it makes pass. -/
def plain : String :=
  "rule \"r\" when a > 0 and not b then c.d = a + 1\n" ++
    "test \"t\" \x7b\n" ++
    "  given a = 1\n" ++
    "  expect c.d == 2 and true\n" ++
    "\x7d\n"

/- The same in another layout, with comments and capitals. -/
def loud : String :=
  "RULE \"r\" WHEN a>0 AND NOT b THEN c . d=a+1 # more\n" ++
    "Test \"t\"\x7b\n" ++
    "\tGiven a=1\n" ++
    "\tEXPECT c.d==2 And TRUE // met\n" ++
    "\x7d\n"

/- The two do the same. -/
theorem meaning_of_tokens_loud :
    ∃ report report',
      SameTokens plain loud ∧
        plain ≠ loud ∧
        run true plain = .ok report ∧
        run true loud = .ok report' ∧
        report.Alike report' ∧
        report.tests.map (·.passed) = [true] := by
  have hTokens : SameTokens plain loud := by decide +kernel
  have hSeen :
      (run true plain).map (·.tests.map (·.passed)) =
        .ok [true] := by
    decide +kernel
  rcases map_eq_ok_iff.mp hSeen with ⟨report, hRun, hPassed⟩
  cases (meaning_of_tokens hTokens).2 true with
  | errors hError hError' =>
      rw [hRun] at hError
      cases hError
  | @values _ report' hValue hValue' hSame =>
      rw [hRun] at hValue
      cases hValue
      exact
        ⟨report, report', hTokens, by decide, hRun, hValue',
          hSame, hPassed⟩

end Source

end Rulebook
