import Rulebook.Program.Reading
import Rulebook.Program.View
import Rulebook.Proofs.Reading

/-
  The grammar of programs over tokens:

    program := (NEWLINE* (rule | test))* NEWLINE* EOF
    rule    := RULE STRING WHEN condition THEN path = span
               NEWLINE?
    test    := TEST STRING { (NEWLINE | clause)* } NEWLINE?
    clause  := (GIVEN | EXPECT) span NEWLINE?

  A span has any tokens of a line, and a condition any but the
  word THEN.  A derivation is kept with all its tokens, and so
  it says which tokens it derives and which tree it has.

  Key definitions include:
    * `Grammar.RuleSyntax`
    * `Grammar.ClauseSyntax`
    * `Grammar.TestSyntax`
    * `Grammar.ProgramSyntax`
    * `Grammar.ProgramSyntax.tokens`
    * `Grammar.ProgramSyntax.node`
    * `Grammar.ProgramSyntax.spans`
    * `Grammar.ProgramSyntax.EndsLines`

  The grammar alone does not say where a span ends.  This is
  added by `Grammar.EndsLine`.
-/

namespace Rulebook.Grammar

------------------------------------------------------------
-- Spans
------------------------------------------------------------

/- No token ends the line, and none ends the text. -/
def OnLine (span : List Token) : Prop :=
  ∀ t ∈ span, t.kind ≠ .newline ∧ t.kind ≠ .finish

/- All tokens are line ends. -/
def LineEnds (gap : List Token) : Prop :=
  ∀ t ∈ gap, t.kind = .newline

/- The place of a span is that of its first token. -/
def placeOf
    (otherwise : Token) : List Token → Position
  | [] => otherwise.position
  | t :: _ => t.position

/- An expression is kept as the spellings of its tokens. -/
def expressionNode
    (kind : NodeKind)
    (span : List Token)
    (position : Position) : Node :=
  { kind
    content := spellingOfTokens span
    position
    children := [] }

/-
  A span has a line end behind it: the one that belongs to the
  construct of the span, or else the first token after it.  The
  end of the text does as well.
-/
def EndsLine
    (lineEnd : Option Token)
    (behind : List Token) : Prop :=
  lineEnd = none → ∀ t ∈ behind.head?, t.kind = .newline

------------------------------------------------------------
-- Rules
------------------------------------------------------------

/- A rule with all its tokens. -/
structure RuleSyntax where
  word : Token
  name : Token
  whenWord : Token
  condition : List Token
  thenWord : Token
  first : Token
  more : List Token
  names : List String
  sign : Token
  value : List Token
  lineEnd : Option Token
  hWord : word.kind = .keyword .rule
  hName : name.kind = .string
  hWhen : whenWord.kind = .keyword .when
  hCondition : OnLine condition
  hBeforeThen : ∀ t ∈ condition, t.kind ≠ .keyword .andThen
  hThen : thenWord.kind = .keyword .andThen
  hFirst : first.kind = .identifier
  hMore : Names more names
  hSign : sign.kind = .symbol .assign
  hValue : OnLine value
  hLineEnd : ∀ t ∈ lineEnd, t.kind = .newline

namespace RuleSyntax

/- The tokens of a rule behind its first word. -/
def behindWord (r : RuleSyntax) : List Token :=
  r.name :: r.whenWord :: r.condition ++
    r.thenWord :: r.first :: r.more ++
    r.sign :: r.value ++ r.lineEnd.toList

/- The tokens of a rule. -/
def tokens (r : RuleSyntax) : List Token :=
  r.word :: r.behindWord

/- The path that a rule assigns to, as its texts give it. -/
def target (r : RuleSyntax) : String :=
  ".".intercalate (r.first.lexeme :: r.names)

/- The node of the condition. -/
def whenNode (r : RuleSyntax) : Node :=
  expressionNode .when r.condition
    (placeOf r.whenWord r.condition)

/- The node of the target. -/
def targetNode (r : RuleSyntax) : Node :=
  { kind := .target
    content := r.target
    position := r.first.position
    children := [] }

/- The node of the value. -/
def valueNode (r : RuleSyntax) : Node :=
  expressionNode .value r.value (placeOf r.sign r.value)

/- The node of the assignment. -/
def setNode (r : RuleSyntax) : Node :=
  { kind := .set
    content := ""
    position := r.thenWord.position
    children := [r.targetNode, r.valueNode] }

/- The node of a rule. -/
def node (r : RuleSyntax) : Node :=
  { kind := .rule
    content := r.name.lexeme
    position := r.word.position
    children := [r.whenNode, r.setNode] }

/- The rule that the tokens say. -/
def rule (r : RuleSyntax) : Rule :=
  { name := r.name.lexeme
    condition :=
      ⟨spellingOfTokens r.condition,
        placeOf r.whenWord r.condition⟩
    target := r.target
    value :=
      ⟨spellingOfTokens r.value, placeOf r.sign r.value⟩
    position := r.word.position }

/- The expressions of a rule, each with its span. -/
def spans (r : RuleSyntax) : List (Node × List Token) :=
  [(r.whenNode, r.condition), (r.valueNode, r.value)]

end RuleSyntax

------------------------------------------------------------
-- Tests
------------------------------------------------------------

/- The words that begin a clause, and the kinds of its node. -/
inductive Introduces : TokenKind → NodeKind → Prop where
  | given : Introduces (.keyword .given) .given
  | expect : Introduces (.keyword .expect) .expect

/- A clause with all its tokens. -/
structure ClauseSyntax where
  kind : NodeKind
  word : Token
  span : List Token
  lineEnd : Option Token
  hWord : Introduces word.kind kind
  hSpan : OnLine span
  hLineEnd : ∀ t ∈ lineEnd, t.kind = .newline

namespace ClauseSyntax

/- The tokens of a clause. -/
def tokens (c : ClauseSyntax) : List Token :=
  c.word :: c.span ++ c.lineEnd.toList

/- The node of a clause stands where its word stands. -/
def node (c : ClauseSyntax) : Node :=
  expressionNode c.kind c.span c.word.position

/- The clause that the tokens say. -/
def clause (c : ClauseSyntax) : Clause :=
  ⟨spellingOfTokens c.span, c.word.position⟩

end ClauseSyntax

/- Between the braces of a test stand line ends and clauses. -/
inductive TestLine where
  | blank
      (lineEnd : Token)
      (hLineEnd : lineEnd.kind = .newline)
  | clause (c : ClauseSyntax)

namespace TestLine

/- The tokens of a line. -/
def tokens : TestLine → List Token
  | blank lineEnd _ => [lineEnd]
  | clause c => c.tokens

/- The clause of a line, if there is one. -/
def clause? : TestLine → Option ClauseSyntax
  | blank _ _ => none
  | clause c => some c

end TestLine

/- The spans of all lines reach to the ends of their lines. -/
def LinesEnd : List TestLine → List Token → Prop
  | [], _ => True
  | .blank _ _ :: lines, behind => LinesEnd lines behind
  | .clause c :: lines, behind =>
      EndsLine c.lineEnd
          (lines.flatMap TestLine.tokens ++ behind) ∧
        LinesEnd lines behind

/- A test with all its tokens. -/
structure TestSyntax where
  word : Token
  name : Token
  opening : Token
  lines : List TestLine
  closing : Token
  lineEnd : Option Token
  hWord : word.kind = .keyword .test
  hName : name.kind = .string
  hOpening : opening.kind = .symbol .leftBrace
  hClosing : closing.kind = .symbol .rightBrace
  hLineEnd : ∀ t ∈ lineEnd, t.kind = .newline

namespace TestSyntax

/- The tokens of a test behind its first word. -/
def behindWord (t : TestSyntax) : List Token :=
  t.name :: t.opening :: t.lines.flatMap TestLine.tokens ++
    t.closing :: t.lineEnd.toList

/- The tokens of a test. -/
def tokens (t : TestSyntax) : List Token :=
  t.word :: t.behindWord

/- The clauses of a test. -/
def clauses (t : TestSyntax) : List ClauseSyntax :=
  t.lines.filterMap TestLine.clause?

/- The node of a test. -/
def node (t : TestSyntax) : Node :=
  { kind := .test
    content := t.name.lexeme
    position := t.word.position
    children := t.clauses.map ClauseSyntax.node }

/- The clauses that a word begins. -/
def clausesOf
    (t : TestSyntax)
    (kind : NodeKind) : List Clause :=
  (t.clauses.filter (·.kind = kind)).map ClauseSyntax.clause

/- The test case that the tokens say. -/
def testCase (t : TestSyntax) : TestCase :=
  { name := t.name.lexeme
    givens := t.clausesOf .given
    expects := t.clausesOf .expect
    position := t.word.position }

/- The expressions of a test, each with its span. -/
def spans (t : TestSyntax) : List (Node × List Token) :=
  t.clauses.map fun c => (c.node, c.span)

end TestSyntax

------------------------------------------------------------
-- Programs
------------------------------------------------------------

/- A rule or a test. -/
inductive Construct where
  | rule (r : RuleSyntax)
  | test (t : TestSyntax)

namespace Construct

def tokens : Construct → List Token
  | rule r => r.tokens
  | test t => t.tokens

def node : Construct → Node
  | rule r => r.node
  | test t => t.node

def rule? : Construct → Option RuleSyntax
  | rule r => some r
  | test _ => none

def test? : Construct → Option TestSyntax
  | rule _ => none
  | test t => some t

def spans : Construct → List (Node × List Token)
  | rule r => r.spans
  | test t => t.spans

/- The spans reach to the ends of their lines. -/
def EndsLines
    (behind : List Token) : Construct → Prop
  | rule r => EndsLine r.lineEnd behind
  | test t => LinesEnd t.lines [t.closing]

end Construct

/- A rule or a test, and the line ends before it. -/
structure Item where
  gap : List Token
  construct : Construct
  hGap : LineEnds gap

/- The tokens of an item. -/
def Item.tokens (item : Item) : List Token :=
  item.gap ++ item.construct.tokens

/- The spans of all items reach to the ends of their lines. -/
def ItemsEnd : List Item → List Token → Prop
  | [], _ => True
  | item :: items, behind =>
      item.construct.EndsLines
          (items.flatMap Item.tokens ++ behind) ∧
        ItemsEnd items behind

/- A program with all its tokens. -/
structure ProgramSyntax where
  items : List Item
  gap : List Token
  finish : Token
  hGap : LineEnds gap
  hFinish : finish.kind = .finish

namespace ProgramSyntax

/- The tokens of a program before the end of the text. -/
def body (p : ProgramSyntax) : List Token :=
  p.items.flatMap Item.tokens ++ p.gap

/- The tokens of a program. -/
def tokens (p : ProgramSyntax) : List Token :=
  p.body ++ [p.finish]

/- The rules and tests of a program. -/
def constructs (p : ProgramSyntax) : List Construct :=
  p.items.map Item.construct

/- The node of a program. -/
def node (p : ProgramSyntax) : Node :=
  { kind := .program
    content := ""
    position := placeOf p.finish p.body
    children := p.constructs.map Construct.node }

/- The rules of a program. -/
def rules (p : ProgramSyntax) : List RuleSyntax :=
  p.constructs.filterMap Construct.rule?

/- The tests of a program. -/
def tests (p : ProgramSyntax) : List TestSyntax :=
  p.constructs.filterMap Construct.test?

/- The expressions of a program, each with its span. -/
def spans (p : ProgramSyntax) : List (Node × List Token) :=
  p.constructs.flatMap Construct.spans

/-
  Every value and every clause goes on to the end of its line.
  What follows it is a line end or the end of the text.
-/
def EndsLines (p : ProgramSyntax) : Prop :=
  ItemsEnd p.items p.gap

end ProgramSyntax

end Rulebook.Grammar
