import Rulebook.Proofs.Program.Grammar

/-
  The rules and the test cases that are seen in a program tree
  of the grammar.

  Key definitions include:
    * `Node.IsWholeRule`
    * `Node.IsWholeTest`

  Main results:
    * `Grammar.ProgramSyntax.rules_node`
    * `Grammar.ProgramSyntax.tests_node`
    * `Grammar.ProgramSyntax.whole_children`
    * `Node.length_views`
-/

namespace Rulebook

------------------------------------------------------------
-- Whole Nodes
------------------------------------------------------------

namespace Node

/-
  A rule with all its parts and no other child.  The parts are
  those that its view looks for.
-/
def IsWholeRule (node : Node) : Prop :=
  node.kind = .rule ∧
    ∃ condition set target value,
      node.children = [condition, set] ∧
        set.children = [target, value] ∧
        node.child? .when = some condition ∧
        node.child? .set = some set ∧
        set.child? .target = some target ∧
        set.child? .value = some value

/- A test with no child that is not one of its clauses. -/
def IsWholeTest (node : Node) : Prop :=
  node.kind = .test ∧
    ∀ child ∈ node.children,
      child.kind = .given ∨ child.kind = .expect

/- A rule is seen as a rule only. -/
theorem IsWholeRule.views
    {node : Node}
    (h : node.IsWholeRule) :
    node.rule?.isSome = true ∧ node.test? = none := by
  simp [rule?, test?, h.1]

/- A test is seen as a test only. -/
theorem IsWholeTest.views
    {node : Node}
    (h : node.IsWholeTest) :
    node.rule? = none ∧ node.test?.isSome = true := by
  simp [rule?, test?, h.1]

/- The views of whole children account for all of them. -/
theorem length_views
    {children : List Node}
    (h :
      ∀ child ∈ children,
        child.IsWholeRule ∨ child.IsWholeTest) :
    (children.filterMap rule?).length +
        (children.filterMap test?).length =
      children.length := by
  induction children with
  | nil => rfl
  | cons child children ih =>
      have hMore := ih fun c hC => h c (by simp [hC])
      rcases h child (by simp) with hRule | hTest
      · rcases hRule.views with ⟨hSome, hNone⟩
        rcases Option.isSome_iff_exists.mp hSome with
          ⟨rule, hRule⟩
        rw [List.filterMap_cons_some hRule,
          List.filterMap_cons_none hNone]
        simp only [List.length_cons]
        omega
      · rcases hTest.views with ⟨hNone, hSome⟩
        rcases Option.isSome_iff_exists.mp hSome with
          ⟨test, hTest⟩
        rw [List.filterMap_cons_none hNone,
          List.filterMap_cons_some hTest]
        simp only [List.length_cons]
        omega

end Node

------------------------------------------------------------
-- Views
------------------------------------------------------------

namespace Grammar

/- The node of a rule is seen as the rule. -/
theorem RuleSyntax.rule?_node (r : RuleSyntax) :
    r.node.rule? = some r.rule :=
  rfl

theorem RuleSyntax.isWholeRule_node (r : RuleSyntax) :
    r.node.IsWholeRule :=
  ⟨rfl, r.whenNode, r.setNode, r.targetNode, r.valueNode,
    rfl, rfl, rfl, rfl, rfl, rfl⟩

/- There are two kinds of clauses. -/
theorem Introduces.given_or_expect
    {kind : TokenKind}
    {node : NodeKind}
    (h : Introduces kind node) :
    node = .given ∨ node = .expect := by
  cases h with
  | given => exact .inl rfl
  | expect => exact .inr rfl

/- The clauses of a kind are the nodes of this kind. -/
theorem TestSyntax.clause_childrenOf
    (t : TestSyntax)
    (kind : NodeKind) :
    (t.node.childrenOf kind).map Node.clause =
      t.clausesOf kind := by
  have hChildren :
      t.node.childrenOf kind =
        (t.clauses.map ClauseSyntax.node).filter
          (·.kind = kind) :=
    rfl
  rw [hChildren, List.filter_map, List.map_map]
  rfl

/- The node of a test is seen as the test case. -/
theorem TestSyntax.test?_node (t : TestSyntax) :
    t.node.test? = some t.testCase := by
  have hTest :
      t.node.test? =
        some
          { name := t.name.lexeme
            givens :=
              (t.node.childrenOf .given).map Node.clause
            expects :=
              (t.node.childrenOf .expect).map Node.clause
            position := t.word.position } :=
    rfl
  rw [hTest, t.clause_childrenOf, t.clause_childrenOf]
  rfl

theorem TestSyntax.isWholeTest_node (t : TestSyntax) :
    t.node.IsWholeTest := by
  refine ⟨rfl, ?_⟩
  intro child hChild
  rcases List.mem_map.mp hChild with ⟨c, _, rfl⟩
  exact c.hWord.given_or_expect

namespace ProgramSyntax

/- The rules that are seen in the tree are those written. -/
theorem rules_node (p : ProgramSyntax) :
    p.node.rules = p.rules.map RuleSyntax.rule := by
  have hConstruct :
      ∀ c : Construct,
        c.node.rule? = c.rule?.map RuleSyntax.rule := by
    intro c
    cases c with
    | rule r => exact r.rule?_node
    | test t => rfl
  simp only [Node.rules, node, rules, List.filterMap_map,
    List.map_filterMap, Function.comp_def, hConstruct]

/- So are the test cases. -/
theorem tests_node (p : ProgramSyntax) :
    p.node.tests = p.tests.map TestSyntax.testCase := by
  have hConstruct :
      ∀ c : Construct,
        c.node.test? = c.test?.map TestSyntax.testCase := by
    intro c
    cases c with
    | rule r => rfl
    | test t => exact t.test?_node
  simp only [Node.tests, node, tests, List.filterMap_map,
    List.map_filterMap, Function.comp_def, hConstruct]

/- Every child of a program is a whole rule or a whole test. -/
theorem whole_children (p : ProgramSyntax) :
    ∀ child ∈ p.node.children,
      child.IsWholeRule ∨ child.IsWholeTest := by
  intro child hChild
  rcases List.mem_map.mp hChild with ⟨construct, _, rfl⟩
  cases construct with
  | rule r => exact .inl r.isWholeRule_node
  | test t => exact .inr t.isWholeTest_node

end ProgramSyntax

end Grammar

end Rulebook
