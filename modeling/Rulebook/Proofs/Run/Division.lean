import Rulebook.Proofs.Given.Lines
import Rulebook.Proofs.Program.Spans
import Rulebook.Proofs.Run.Independence

/-
  A `given` line can be divided at a comma outside parentheses:
  two lines with the tokens before and behind the comma do what
  the one line does, unless it has an error, and then one of
  them has an error too.

  Key definitions include:
    * `Grammar.Holds`
    * `Agree`

  Main results:
    * `Grammar.assignsAll_append_comma`
    * `Source.exists_holds`
    * `Direct.givens_divided`
    * `Runner.given_divided`
-/

namespace Rulebook

------------------------------------------------------------
-- Texts And Their Tokens
------------------------------------------------------------

namespace Grammar

/- A text has these tokens, but for places and line ends. -/
def Holds
    (text : String)
    (tokens : List Token) : Prop :=
  (tokenize text).map
      (fun list => (withoutLineEnds list).map Token.unplaced) =
    .ok (tokens.map Token.unplaced ++ [(.finish, "")])

variable {text : String}
variable {tokens xs ys : List Token}
variable {comma : Token}
variable {list : List Assignment}

/- The spellings of tokens are a text that has them. -/
theorem holds_spellingOfTokens
    (h : ∀ t ∈ tokens, Respellable t) :
    Holds (spellingOfTokens tokens) tokens := by
  apply map_eq_ok_iff.mpr
  refine ⟨_, tokenize_spellingOfTokens_row h, ?_⟩
  rw [withoutLineEnds_concat (respellable_of_mem_inRow h) rfl,
    List.map_append, map_unplaced_inRow]
  rfl

/- A text assigns what the tokens assign that it has. -/
theorem Holds.compileAssignments_iff
    (h : Holds text tokens) :
    compileAssignments text = .ok list ↔
      AssignsAll tokens list := by
  rcases map_eq_ok_iff.mp h with ⟨whole, hText, hSame⟩
  rcases exists_withoutLineEnds hText with
    ⟨body, stop, hKept, hStop, hBody⟩
  rw [hKept, List.map_append] at hSame
  rcases List.append_inj' hSame rfl with ⟨hUnplaced, _⟩
  rw [compileAssignments_eq_ok_iff
    (expressionReader_of_tokenize hText hKept hStop hBody)
    hBody]
  exact assignsAll_iff_of_alike (alike_of_unplaced hUnplaced)

/-
  Around a comma outside parentheses, what is assigned is what
  the tokens before it assign and then what those behind it do.
-/
theorem assignsAll_append_comma
    (hComma : comma.kind = .symbol .comma)
    (hDepth : depth xs = 0) :
    AssignsAll (xs ++ comma :: ys) list ↔
      ∃ first second,
        AssignsAll xs first ∧
          AssignsAll ys second ∧
          first ++ second = list := by
  unfold AssignsAll
  rw [splitCommas_append_comma hComma hDepth]
  constructor
  · rintro ⟨results, hResults, rfl⟩
    rcases exists_split_of_forall₂ hResults with
      ⟨front, back, rfl, hFront, hBack⟩
    exact
      ⟨_, _, ⟨front, hFront, rfl⟩, ⟨back, hBack, rfl⟩,
        List.flatMap_append.symm⟩
  · rintro ⟨_, _, ⟨front, hFront, rfl⟩, ⟨back, hBack, rfl⟩,
      rfl⟩
    exact
      ⟨front ++ back, List.rel_append hFront hBack,
        List.flatMap_append⟩

end Grammar

open Grammar

/-
  The text of every expression of an accepted source has tokens,
  and every stretch of them is what its spellings have.
-/
theorem Source.exists_holds
    {source : String}
    {tree : Node}
    (h : program source = .ok tree) :
    ∀ node ∈ tree.expressions,
      ∃ tokens,
        Holds node.content tokens ∧
          ∀ stretch,
            stretch <:+: tokens →
              Holds (spellingOfTokens stretch) stretch := by
  intro node hNode
  rcases program_eq_ok_iff.mp h with ⟨p, hText, _, rfl⟩
  rw [p.expressions_node] at hNode
  rcases List.mem_map.mp hNode with ⟨⟨_, span⟩, hSpan, rfl⟩
  have hSpelled : ∀ t ∈ span, Respellable t :=
    respellable_of_mem_spans hText hSpan
  have hContent := (ProgramSyntax.spells_of_mem_spans hSpan).1
  simp only at hContent ⊢
  rw [hContent]
  refine ⟨span, holds_spellingOfTokens hSpelled, ?_⟩
  intro stretch hStretch
  exact
    holds_spellingOfTokens fun t hT =>
      hSpelled t (hStretch.subset hT)

------------------------------------------------------------
-- The Same Unless There Is An Error
------------------------------------------------------------

/- Both have an error, or none has one and they are the same. -/
inductive Agree
    {α : Type}
    (errorOf : α → Option EvalError)
    (a b : α) : Prop where
  | errors
      {e e' : EvalError}
      (hError : errorOf a = some e)
      (hError' : errorOf b = some e')
  | same
      (hError : errorOf a = none)
      (hSame : b = a)

theorem Agree.refl
    {α : Type}
    {errorOf : α → Option EvalError}
    (a : α) : Agree errorOf a a := by
  cases hError : errorOf a with
  | none => exact .same hError rfl
  | some e => exact .errors hError hError

/- Assignments in a row are made one list after the other. -/
theorem Environment.assign_append
    (env : Environment)
    (first second : List Assignment) :
    env.assign (first ++ second) =
      (env.assign first).assign second :=
  List.foldl_append

namespace Direct

------------------------------------------------------------
-- Tests
------------------------------------------------------------

variable {clause one two : Clause}
variable {rs : List Rule}
variable {t u : TestCase}

/- A line and the two that it is divided into. -/
theorem givens_divided
    (h :
      ∀ list,
        compileAssignments clause.text = .ok list ↔
          ∃ first second,
            compileAssignments one.text = .ok first ∧
              compileAssignments two.text = .ok second ∧
              first ++ second = list)
    (before behind : List Clause)
    (env : Environment) :
    Agree Prod.snd
      (givens (before ++ clause :: behind) env)
      (givens (before ++ one :: two :: behind) env) := by
  have hAssignments :
      ∀ list,
        clause.assignments = .ok list ↔
          ∃ first second,
            one.assignments = .ok first ∧
              two.assignments = .ok second ∧
              first ++ second = list := by
    simpa only [Clause.assignments, mapError_eq_ok_iff] using h
  induction before generalizing env with
  | nil =>
      cases hClause : clause.assignments with
      | ok list =>
          rcases (hAssignments list).mp hClause with
            ⟨first, second, hOne, hTwo, rfl⟩
          simp only [List.nil_append, givens, hClause, hOne,
            hTwo, Environment.assign_append]
          exact .refl _
      | error e =>
          -- The lines behind it are not reached either way.
          cases hOne : one.assignments with
          | error e' =>
              simp only [List.nil_append, givens, hClause, hOne]
              exact .errors rfl rfl
          | ok first =>
              cases hTwo : two.assignments with
              | error e' =>
                  simp only [List.nil_append, givens, hClause,
                    hOne, hTwo]
                  exact .errors rfl rfl
              | ok second =>
                  have hOk :=
                    (hAssignments _).mpr
                      ⟨first, second, hOne, hTwo, rfl⟩
                  rw [hClause] at hOk
                  cases hOk
  | cons other before ih =>
      cases hOther : other.assignments with
      | ok list =>
          simp only [List.cons_append, givens, hOther]
          exact ih (env.assign list)
      | error e =>
          simp only [List.cons_append, givens, hOther]
          exact .errors rfl rfl

/- Given lines are all that may differ between two tests. -/
theorem test_agree
    (hName : u.name = t.name)
    (hExpects : u.expects = t.expects)
    (hGivens :
      Agree Prod.snd (givens t.givens .empty)
        (givens u.givens .empty)) :
    Agree (·.error) (test rs t) (test rs u) := by
  cases hGivens with
  | errors hError hError' =>
      have hTest :=
        @test_of_givens_error rs t _ _ (Prod.ext rfl hError)
      have hTest' :=
        @test_of_givens_error rs u _ _ (Prod.ext rfl hError')
      rw [hTest, hTest']
      exact .errors rfl rfl
  | same hError hSame =>
      have hTest : test rs u = test rs t := by
        unfold test
        rw [hSame, hName, hExpects]
      rw [hTest]
      exact .refl _

/-
  Where failures are not isolated, a run with one test in the
  place of another has an error too, or the same reports.
-/
theorem tests_strict_agree
    (front back : List TestCase)
    (h : Agree (·.error) (test rs t) (test rs u)) :
    AlikeResults (· = ·)
      (tests false rs (front ++ t :: back))
      (tests false rs (front ++ u :: back)) := by
  induction front with
  | nil =>
      cases h with
      | errors hError hError' =>
          simp only [List.nil_append, tests, hError, hError']
          exact .errors rfl rfl
      | same hError hSame =>
          simp only [List.nil_append, tests, hSame]
          exact alikeResults_of_ok_iff fun _ => Iff.rfl
  | cons first front ih =>
      cases hError : (test rs first).error with
      | some e =>
          simp only [List.cons_append, tests, hError]
          exact .errors rfl rfl
      | none =>
          simp only [List.cons_append, tests, hError]
          exact ih.map fun _ _ hOthers => by rw [hOthers]

end Direct

------------------------------------------------------------
-- Nodes
------------------------------------------------------------

namespace Node

variable {program test given one two : Node}
variable {front back before behind : List Node}

/- A test among the children of a program is no rule. -/
theorem rules_around_test
    (h : program.children = front ++ test :: back)
    (hTest : test.kind = .test) :
    program.rules =
      front.filterMap rule? ++ back.filterMap rule? := by
  have hNone : test.rule? = none := by simp [rule?, hTest]
  simp [rules, h, hNone]

/- It is a test between the tests around it. -/
theorem tests_around_test
    (h : program.children = front ++ test :: back)
    (hTest : test.kind = .test) :
    program.tests =
      front.filterMap test? ++
        test.testCase :: back.filterMap test? := by
  simp [tests, h, test?_of_kind hTest]

end Node

------------------------------------------------------------
-- Runs
------------------------------------------------------------

/-
  A given line of a test that is divided at a comma outside
  parentheses, whatever was run before.  The test meets an error
  in both programs or in none.  If it meets none, its report is
  the same.  No other test is reported in another way.
-/
theorem Runner.given_divided
    {program divided test given one two : Node}
    {front back before behind : List Node}
    {xs ys : List Token}
    {comma : Token}
    (history history' : List (Bool × Node))
    (hProgram : program.children = front ++ test :: back)
    (hDivided :
      divided.children =
        front ++
          { test with
            children := before ++ one :: two :: behind } ::
          back)
    (hTest : test.kind = .test)
    (hChildren : test.children = before ++ given :: behind)
    (hGiven : given.kind = .given)
    (hOne : one.kind = .given)
    (hTwo : two.kind = .given)
    (hTokens : Holds given.content (xs ++ comma :: ys))
    (hComma : comma.kind = .symbol .comma)
    (hDepth : depth xs = 0)
    (hXs : Holds one.content xs)
    (hYs : Holds two.content ys) :
    (∃ earlier report report' later,
      earlier.length = (front.filterMap Node.test?).length ∧
        ((resumed true history).run program).result =
          .ok ⟨earlier ++ report :: later⟩ ∧
        ((resumed true history').run divided).result =
          .ok ⟨earlier ++ report' :: later⟩ ∧
        Agree (·.error) report report') ∧
      AlikeResults (· = ·)
        ((resumed false history).run program).result
        ((resumed false history').run divided).result := by
  have hTexts :
      ∀ list,
        compileAssignments given.clause.text = .ok list ↔
          ∃ first second,
            compileAssignments one.clause.text = .ok first ∧
              compileAssignments two.clause.text =
                .ok second ∧
              first ++ second = list := by
    intro list
    rw [Node.clause, Node.clause, Node.clause,
      hTokens.compileAssignments_iff,
      assignsAll_append_comma hComma hDepth]
    simp only [hXs.compileAssignments_iff,
      hYs.compileAssignments_iff]
  have hAgree :
      Agree (·.error)
        (Direct.test program.rules test.testCase)
        (Direct.test program.rules
          { test with
            children :=
              before ++ one :: two :: behind }.testCase) := by
    apply Direct.test_agree
    · rfl
    · simp [Node.testCase, Node.childrenOf, hChildren, hGiven,
        hOne, hTwo]
    · simpa [Node.testCase, Node.childrenOf, hChildren, hGiven,
        hOne, hTwo] using
        Direct.givens_divided hTexts _ _ .empty
  have hRules : divided.rules = program.rules := by
    rw [Node.rules_around_test hProgram hTest,
      Node.rules_around_test hDivided hTest]
  simp only [resumed_result, Direct.run, hRules,
    Node.tests_around_test hProgram hTest,
    Node.tests_around_test hDivided hTest]
  constructor
  · simp only [Direct.tests_isolated, List.map_append,
      List.map_cons]
    exact ⟨_, _, _, _, List.length_map _, rfl, rfl, hAgree⟩
  · exact
      (Direct.tests_strict_agree _ _ hAgree).map
        fun _ _ hSame => by rw [hSame]

/- The node of a given line. -/
def givenLine (content : String) : Node :=
  ⟨.given, content, ⟨2, 3⟩, []⟩

/- A test of `b` with these given lines. -/
def testOfB (lines : List Node) : Node :=
  ⟨.test, "t", ⟨1, 1⟩,
    lines ++ [⟨.expect, "b == 2", ⟨3, 3⟩, []⟩]⟩

/- The program of one test. -/
def singleTest (test : Node) : Node :=
  ⟨.program, "", .start, [test]⟩

/-
  A parenthesis too many between two commas, of which the second
  one divides the line.
-/
theorem Runner.given_divided_unbalanced :
    let whole :=
      testOfB [givenLine "a = (1), ), b = a + 1, c = 3"]
    let halves :=
      testOfB
        [givenLine "a = ( 1 ) , )",
         givenLine "b = a + 1 , c = 3"]
    ∃ report,
      ((resumed true []).run (singleTest whole)).result =
          .ok ⟨[report]⟩ ∧
        ((resumed true []).run (singleTest halves)).result =
          .ok ⟨[report]⟩ ∧
        report.passed = true := by
  intro whole halves
  let xs : List Token :=
    [⟨.identifier, "a", .start⟩,
     ⟨.symbol .assign, "=", .start⟩,
     ⟨.symbol .leftParen, "(", .start⟩,
     ⟨.number, "1", .start⟩,
     ⟨.symbol .rightParen, ")", .start⟩,
     ⟨.symbol .comma, ",", .start⟩,
     ⟨.symbol .rightParen, ")", .start⟩]
  let comma : Token := ⟨.symbol .comma, ",", .start⟩
  let ys : List Token :=
    [⟨.identifier, "b", .start⟩,
     ⟨.symbol .assign, "=", .start⟩,
     ⟨.identifier, "a", .start⟩,
     ⟨.symbol .plus, "+", .start⟩,
     ⟨.number, "1", .start⟩,
     ⟨.symbol .comma, ",", .start⟩,
     ⟨.identifier, "c", .start⟩,
     ⟨.symbol .assign, "=", .start⟩,
     ⟨.number, "3", .start⟩]
  have hTokens :
      Holds
        (givenLine "a = (1), ), b = a + 1, c = 3").content
        (xs ++ comma :: ys) := by
    unfold Holds
    decide +kernel
  have hSeen :
      ((resumed true []).run
          (singleTest whole)).result.map
          (·.tests.map (·.passed)) =
        .ok [true] := by
    decide +kernel
  have hProgram :
      (singleTest whole).children = [] ++ whole :: [] :=
    rfl
  have hDivided :
      (singleTest halves).children = [] ++ halves :: [] :=
    rfl
  have hChildren :
      whole.children =
        [] ++ givenLine "a = (1), ), b = a + 1, c = 3" ::
          [⟨.expect, "b == 2", ⟨3, 3⟩, []⟩] :=
    rfl
  have hXs : Holds (givenLine "a = ( 1 ) , )").content xs := by
    unfold Holds
    decide +kernel
  have hYs :
      Holds (givenLine "b = a + 1 , c = 3").content ys := by
    unfold Holds
    decide +kernel
  rcases
    (given_divided [] [] hProgram hDivided rfl hChildren rfl rfl
      rfl hTokens rfl (by decide) hXs hYs).1
    with ⟨earlier, report, report', later, hEarlier, hRun,
      hRun', hAgree⟩
  have hNone : earlier = [] :=
    List.length_eq_zero_iff.mp hEarlier
  rw [hNone, List.nil_append] at hRun hRun'
  rw [hRun] at hSeen
  rcases List.cons.inj (Except.ok.inj hSeen) with
    ⟨hPassed, hLater⟩
  have hPassed : report.passed = true := hPassed
  have hLater := List.map_eq_nil_iff.mp hLater
  rw [hLater] at hRun hRun'
  cases hAgree with
  | errors hError hError' =>
      have hFailed : report.passed = false :=
        TestReport.passed_eq_false_of_error (by simp [hError])
      rw [hPassed] at hFailed
      cases hFailed
  | same hError hSame =>
      rw [hSame] at hRun'
      exact ⟨report, hRun, hRun', hPassed⟩

end Rulebook
