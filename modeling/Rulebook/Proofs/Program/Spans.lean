import Rulebook.Proofs.Expr.Places
import Rulebook.Proofs.Program.Lexed
import Rulebook.Source

/-
  Expressions are kept as texts in a program tree.  Each text
  has the tokens of its span again, and is compiled to the
  expression that the span is.

  Key definitions include:
    * `NodeKind.isExpression`
    * `Node.expressions`

  Main results:
    * `Grammar.ProgramSyntax.expressions_node`
    * `Grammar.ProgramSyntax.spells_of_mem_spans`
    * `Source.spans_of_program`
-/

namespace Rulebook

------------------------------------------------------------
-- Nodes Of Expressions
------------------------------------------------------------

/- The kinds of nodes whose text is an expression. -/
def NodeKind.isExpression : NodeKind → Bool
  | .when => true
  | .value => true
  | .given => true
  | .expect => true
  | _ => false

namespace Node

mutual

/- The nodes of a tree whose texts are expressions. -/
def expressions : Node → List Node
  | ⟨kind, content, position, children⟩ =>
      let below := expressionsIn children
      if kind.isExpression then
        ⟨kind, content, position, children⟩ :: below
      else
        below

/- The same for several trees. -/
def expressionsIn : List Node → List Node
  | [] => []
  | node :: nodes => expressions node ++ expressionsIn nodes

end

end Node

namespace Grammar

/- A node of an expression is the only one in its tree. -/
theorem expressions_expressionNode
    {kind : NodeKind}
    (span : List Token)
    (position : Position)
    (h : kind.isExpression = true) :
    (expressionNode kind span position).expressions =
      [expressionNode kind span position] := by
  simp [expressionNode, Node.expressions,
    Node.expressionsIn, h]

/- A clause is an expression. -/
theorem Introduces.isExpression
    {kind : TokenKind}
    {node : NodeKind}
    (h : Introduces kind node) : node.isExpression = true := by
  cases h <;> rfl

/- The expressions of a rule are its condition and its value. -/
theorem RuleSyntax.expressions_node (r : RuleSyntax) :
    r.node.expressions = r.spans.map Prod.fst := by
  have hWhen := expressions_expressionNode r.condition
    (placeOf r.whenWord r.condition)
    (rfl : NodeKind.when.isExpression = true)
  have hValue := expressions_expressionNode r.value
    (placeOf r.sign r.value)
    (rfl : NodeKind.value.isExpression = true)
  simp [node, spans, whenNode, setNode, targetNode, valueNode,
    Node.expressions, Node.expressionsIn,
    NodeKind.isExpression, hWhen, hValue]

/- The expressions of a test are its clauses. -/
theorem TestSyntax.expressions_node (t : TestSyntax) :
    t.node.expressions = t.spans.map Prod.fst := by
  have hClauses :
      ∀ list : List ClauseSyntax,
        Node.expressionsIn (list.map ClauseSyntax.node) =
          list.map ClauseSyntax.node := by
    intro list
    induction list with
    | nil => rfl
    | cons c list ih =>
        have hClause :
            c.node.expressions = [c.node] :=
          expressions_expressionNode c.span c.word.position
            c.hWord.isExpression
        rw [List.map_cons, Node.expressionsIn, hClause, ih]
        rfl
  simp [node, spans, Node.expressions,
    NodeKind.isExpression, hClauses, Function.comp_def]

/- The expressions of a program are those that have a span. -/
theorem ProgramSyntax.expressions_node (p : ProgramSyntax) :
    p.node.expressions = p.spans.map Prod.fst := by
  have hConstruct :
      ∀ c : Construct,
        c.node.expressions = c.spans.map Prod.fst := by
    intro c
    cases c with
    | rule r => exact r.expressions_node
    | test t => exact t.expressions_node
  have hConstructs :
      ∀ list : List Construct,
        Node.expressionsIn (list.map Construct.node) =
          (list.flatMap Construct.spans).map Prod.fst := by
    intro list
    induction list with
    | nil => rfl
    | cons c list ih =>
        rw [List.map_cons, Node.expressionsIn, hConstruct, ih,
          List.flatMap_cons, List.map_append]
  simp [node, spans, Node.expressions,
    NodeKind.isExpression, hConstructs]

------------------------------------------------------------
-- Spans
------------------------------------------------------------

/- The text of an expression and the tokens it comes from. -/
def Spells
    (tokens : List Token)
    (entry : Node × List Token) : Prop :=
  entry.1.content = spellingOfTokens entry.2 ∧
    OnLine entry.2 ∧
    entry.2 <:+: tokens

theorem Spells.mono
    {tokens more : List Token}
    {entry : Node × List Token}
    (h : Spells tokens entry)
    (hMore : tokens <:+: more) : Spells more entry :=
  ⟨h.1, h.2.1, h.2.2.trans hMore⟩

theorem RuleSyntax.spells_of_mem_spans
    {r : RuleSyntax}
    {entry : Node × List Token}
    (h : entry ∈ r.spans) : Spells r.tokens entry := by
  have hCondition : r.condition <:+: r.tokens := by
    refine
      ⟨[r.word, r.name, r.whenWord],
        r.thenWord :: r.first :: r.more ++
          r.sign :: r.value ++ r.lineEnd.toList, ?_⟩
    simp [tokens, behindWord]
  have hValue : r.value <:+: r.tokens := by
    refine
      ⟨r.word :: r.name :: r.whenWord :: r.condition ++
          r.thenWord :: r.first :: r.more ++ [r.sign],
        r.lineEnd.toList, ?_⟩
    simp [tokens, behindWord]
  rcases List.mem_cons.mp h with rfl | hRest
  · exact ⟨rfl, r.hCondition, hCondition⟩
  · rw [List.mem_singleton.mp hRest]
    exact ⟨rfl, r.hValue, hValue⟩

theorem TestSyntax.spells_of_mem_spans
    {t : TestSyntax}
    {entry : Node × List Token}
    (h : entry ∈ t.spans) : Spells t.tokens entry := by
  rcases List.mem_map.mp h with ⟨c, hClause, rfl⟩
  rcases List.mem_filterMap.mp hClause with
    ⟨line, hLine, hSome⟩
  have hTokens : c.tokens = line.tokens := by
    cases line with
    | blank => cases hSome
    | clause other =>
        cases hSome
        rfl
  have hSpan : c.span <:+: c.tokens :=
    ⟨[c.word], c.lineEnd.toList, rfl⟩
  have hLines :
      line.tokens <:+: t.lines.flatMap TestLine.tokens :=
    infix_flatMap hLine
  have hTest :
      t.lines.flatMap TestLine.tokens <:+: t.tokens := by
    refine
      ⟨[t.word, t.name, t.opening],
        t.closing :: t.lineEnd.toList, ?_⟩
    simp [tokens, behindWord]
  rw [← hTokens] at hLines
  exact
    ⟨rfl, c.hSpan, hSpan.trans (hLines.trans hTest)⟩

/- The rules of a program are some of its constructs. -/
theorem ProgramSyntax.mem_constructs_of_rule
    {p : ProgramSyntax}
    {r : RuleSyntax}
    (h : r ∈ p.rules) : .rule r ∈ p.constructs := by
  rcases List.mem_filterMap.mp h with
    ⟨construct, hConstruct, hRule⟩
  cases construct with
  | rule r' =>
      cases hRule
      exact hConstruct
  | test t => cases hRule

/- So are its tests. -/
theorem ProgramSyntax.mem_constructs_of_test
    {p : ProgramSyntax}
    {t : TestSyntax}
    (h : t ∈ p.tests) : .test t ∈ p.constructs := by
  rcases List.mem_filterMap.mp h with
    ⟨construct, hConstruct, hTest⟩
  cases construct with
  | rule r => cases hTest
  | test t' =>
      cases hTest
      exact hConstruct

/- The spans of a construct are spans of the program. -/
theorem ProgramSyntax.mem_spans_of_construct
    {p : ProgramSyntax}
    {c : Construct}
    {entry : Node × List Token}
    (h : c ∈ p.constructs)
    (hEntry : entry ∈ c.spans) : entry ∈ p.spans :=
  List.mem_flatMap.mpr ⟨c, h, hEntry⟩

/- The tokens of a construct are some of those of a program. -/
theorem ProgramSyntax.infix_of_mem_constructs
    {p : ProgramSyntax}
    {c : Construct}
    (h : c ∈ p.constructs) : c.tokens <:+: p.body := by
  rcases List.mem_map.mp h with ⟨item, hItem, rfl⟩
  have hItemTokens :
      item.construct.tokens <:+: item.tokens :=
    (List.suffix_append _ _).isInfix
  have hItems :
      item.tokens <:+: p.items.flatMap Item.tokens :=
    infix_flatMap hItem
  have hBody : p.items.flatMap Item.tokens <:+: p.body :=
    (List.prefix_append _ _).isInfix
  exact hItemTokens.trans (hItems.trans hBody)

/-
  The text of every expression of a program is the spelling of
  a run of tokens on one line.
-/
theorem ProgramSyntax.spells_of_mem_spans
    {p : ProgramSyntax}
    {entry : Node × List Token}
    (h : entry ∈ p.spans) : Spells p.body entry := by
  rcases List.mem_flatMap.mp h with
    ⟨construct, hConstruct, hEntry⟩
  have hHere : Spells construct.tokens entry := by
    cases construct with
    | rule r => exact RuleSyntax.spells_of_mem_spans hEntry
    | test t => exact TestSyntax.spells_of_mem_spans hEntry
  exact hHere.mono (infix_of_mem_constructs hConstruct)

end Grammar

------------------------------------------------------------
-- Sources
------------------------------------------------------------

namespace Source

open Grammar

/- The tree of a source is that of a derivation. -/
theorem program_eq_ok_iff
    {source : String}
    {tree : Node} :
    program source = .ok tree ↔
      ∃ p : ProgramSyntax,
        tokenize source = .ok p.tokens ∧
          p.EndsLines ∧
          p.node = tree := by
  cases hText : tokenize source with
  | error e =>
      rw [program_of_lexical hText]
      simp
  | ok list =>
      rw [program_of_tokenize hText, mapError_eq_ok_iff,
        Reader.program_lexed_eq_ok_iff hText]
      simp [eq_comm]

/- The tokens of a source before its end have lexemes. -/
theorem lexemes_of_body
    {source : String}
    {p : ProgramSyntax}
    (hText : tokenize source = .ok p.tokens) :
    ∀ t ∈ p.body, Lexeme t.kind t.lexeme.toList := by
  rcases lexemes_of_tokenize hText with
    ⟨body, stop, hTokens, _, hBody⟩
  rcases List.append_inj' hTokens rfl with ⟨hSame, _⟩
  rw [hSame]
  exact hBody

/- The tokens of a source on one line can be respelled. -/
theorem respellable_of_tokenize
    {source : String}
    {p : ProgramSyntax}
    {span : List Token}
    (hText : tokenize source = .ok p.tokens)
    (hSpan : span <:+: p.body)
    (hLine : OnLine span) :
    ∀ t ∈ span, Respellable t := by
  intro t hT
  exact
    ⟨lexemes_of_body hText t (hSpan.subset hT),
      (hLine t hT).1⟩

/- So can those of every span. -/
theorem respellable_of_mem_spans
    {source : String}
    {p : ProgramSyntax}
    {entry : Node × List Token}
    (hText : tokenize source = .ok p.tokens)
    (h : entry ∈ p.spans) :
    ∀ t ∈ entry.2, Respellable t := by
  rcases ProgramSyntax.spells_of_mem_spans h with
    ⟨_, hLine, hInfix⟩
  exact respellable_of_tokenize hText hInfix hLine

/-
  The expressions of an accepted source.  The text of each one
  has the tokens of its span again, but for their places, and
  is compiled to the expression that the span is.
-/
theorem spans_of_program
    {source : String}
    {tree : Node}
    (h : program source = .ok tree) :
    ∃ p : ProgramSyntax,
      tokenize source = .ok p.tokens ∧
        p.EndsLines ∧
        p.node = tree ∧
        tree.expressions = p.spans.map Prod.fst ∧
        ∀ node span,
          (node, span) ∈ p.spans →
            span <:+: p.body ∧
            (tokenize node.content).map
                (·.map Token.unplaced) =
              .ok
                (span.map Token.unplaced ++
                  [(.finish, "")]) ∧
            ∀ e,
              compile node.content = .ok e ↔
                ((Reader.ofTokens span).run
                  Expr.readingAll).1 = .ok e := by
  rcases program_eq_ok_iff.mp h with ⟨p, hText, hEnds, rfl⟩
  refine ⟨p, hText, hEnds, rfl, p.expressions_node, ?_⟩
  intro node span hSpan
  rcases ProgramSyntax.spells_of_mem_spans hSpan with
    ⟨hContent, hLine, hInfix⟩
  have hTokens : ∀ t ∈ span, Respellable t :=
    respellable_of_tokenize hText hInfix hLine
  have hContent : node.content = spellingOfTokens span :=
    hContent
  rw [hContent]
  refine ⟨hInfix, tokenize_spellingOfTokens hTokens, ?_⟩
  intro e
  rw [compile_spellingOfTokens_eq_ok_iff hTokens,
    Reader.run_readingAll_iff hTokens]

/- A condition with a quote in a string. -/
theorem spans_of_quoted_rule :
    ∃ (tree : Node) (p : ProgramSyntax),
      program "rule \"r\" when a == \"\\\"\" then b = -1" =
          .ok tree ∧
        tree.expressions = p.spans.map Prod.fst ∧
        ∀ node span,
          (node, span) ∈ p.spans →
            (tokenize node.content).map
                (·.map Token.unplaced) =
              .ok
                (span.map Token.unplaced ++
                  [(.finish, "")]) := by
  have hRead :
      (program
        "rule \"r\" when a == \"\\\"\" then b = -1").isOk =
          true := by
    decide +kernel
  cases hTree :
      program
        "rule \"r\" when a == \"\\\"\" then b = -1" with
  | error error =>
      rw [hTree] at hRead
      cases hRead
  | ok tree =>
      rcases spans_of_program hTree with
        ⟨p, _, _, _, hNodes, hSpans⟩
      exact
        ⟨tree, p, rfl, hNodes,
          fun node span hSpan => (hSpans node span hSpan).2.1⟩

end Source

end Rulebook
