import Rulebook.Proofs.Program.Correctness
import Rulebook.Proofs.Program.View
import Rulebook.Proofs.Token.Split
import Rulebook.Source

/-
  Programs over the tokens of a text.

  Main results:
    * `Reader.program_lexed_eq_ok_iff`
    * `Reader.program_derived_of_tokenize`
    * `Source.program_of_tokenize`
-/

namespace Rulebook

open Grammar

namespace Reader

/- The tokens of a text are read as the grammar derives them. -/
theorem program_lexed_eq_ok_iff
    {text : String}
    {tokens : List Token}
    {tree : Node}
    (hText : tokenize text = .ok tokens) :
    (ofTokens tokens).program.1 = .ok tree ↔
      ∃ p : ProgramSyntax,
        p.tokens = tokens ∧ p.EndsLines ∧ p.node = tree := by
  rcases lexemes_of_tokenize hText with
    ⟨body, stop, rfl, hStop, hBody⟩
  exact
    program_eq_ok_iff (fun t hT => (hBody t hT).ne_finish)
      hStop

/-
  A program is read from the tokens of a text exactly if they
  are derived by the grammar with every value and every clause
  up to the end of its line.  The tree is that of the
  derivation, and its views find all of it.
-/
theorem program_derived_of_tokenize
    {text : String}
    {tokens : List Token}
    (hText : tokenize text = .ok tokens)
    (tree : Node) :
    ((ofTokens tokens).program.1 = .ok tree ↔
      ∃ p : ProgramSyntax,
        p.tokens = tokens ∧
          p.EndsLines ∧
          p.node = tree) ∧
    ((ofTokens tokens).program.1 = .ok tree →
      (∀ child ∈ tree.children,
        child.IsWholeRule ∨ child.IsWholeTest) ∧
      tree.rules.length + tree.tests.length =
        tree.children.length ∧
      ∀ p : ProgramSyntax,
        p.tokens = tokens →
          p.EndsLines →
          tree.rules = p.rules.map RuleSyntax.rule ∧
            tree.tests =
              p.tests.map TestSyntax.testCase) := by
  refine ⟨program_lexed_eq_ok_iff hText, ?_⟩
  intro hTree
  rcases (program_lexed_eq_ok_iff hText).mp hTree with
    ⟨q, _, _, rfl⟩
  refine
    ⟨q.whole_children,
      Node.length_views q.whole_children, ?_⟩
  intro p hTokens hEnds
  have hSame : p.node = q.node := by
    have hRead :=
      (program_lexed_eq_ok_iff hText).mpr
        ⟨p, hTokens, hEnds, rfl⟩
    rw [hTree] at hRead
    exact (Except.ok.inj hRead).symm
  rw [← hSame]
  exact ⟨p.rules_node, p.tests_node⟩

/- A rule without a line end is a program. -/
theorem program_derived_of_rule :
    ∃ tokens tree,
      tokenize "rule \"r\" when a then b.c = 1" =
          .ok tokens ∧
        (ofTokens tokens).program.1 = .ok tree ∧
        ∃ p : ProgramSyntax,
          p.tokens = tokens ∧
            p.EndsLines ∧
            p.node = tree := by
  have hAccepted :
      (tokenize "rule \"r\" when a then b.c = 1").map
          (fun tokens => (ofTokens tokens).program.1.isOk) =
        .ok true := by
    decide +kernel
  rcases map_eq_ok_iff.mp hAccepted with
    ⟨tokens, hText, hRead⟩
  cases hTree : (ofTokens tokens).program.1 with
  | error error =>
      rw [hTree] at hRead
      cases hRead
  | ok tree =>
      exact
        ⟨tokens, tree, hText, hTree,
          (program_derived_of_tokenize hText tree).1.mp hTree⟩

/- A test with a clause that ends before the brace. -/
def clauseBeforeBrace : ProgramSyntax where
  items :=
    [{ gap := []
       construct :=
         .test
           { word := ⟨.keyword .test, "test", ⟨1, 1⟩⟩
             name := ⟨.string, "t", ⟨1, 6⟩⟩
             opening := ⟨.symbol .leftBrace, "\x7b", ⟨1, 10⟩⟩
             lines :=
               [.clause
                 { kind := .given
                   word := ⟨.keyword .given, "given", ⟨1, 11⟩⟩
                   span :=
                     [⟨.identifier, "a", ⟨1, 17⟩⟩,
                      ⟨.symbol .assign, "=", ⟨1, 19⟩⟩,
                      ⟨.number, "1", ⟨1, 21⟩⟩]
                   lineEnd := none
                   hWord := .given
                   hSpan := by simp [OnLine]
                   hLineEnd := by simp }]
             closing := ⟨.symbol .rightBrace, "\x7d", ⟨1, 23⟩⟩
             lineEnd := none
             hWord := rfl
             hName := rfl
             hOpening := rfl
             hClosing := rfl
             hLineEnd := by simp }
       hGap := by simp [LineEnds] }]
  gap := []
  finish := ⟨.finish, "", ⟨1, 24⟩⟩
  hGap := by simp [LineEnds]
  hFinish := rfl

/-
  The grammar alone also derives a clause that ends before the
  brace on its line.  The reader takes the brace for a part of
  the clause.
-/
theorem clause_before_brace_refused :
    ∃ tokens tree,
      tokenize "test \"t\" \x7bgiven a = 1 \x7d" =
          .ok tokens ∧
        ¬ ((ofTokens tokens).program.1 = .ok tree ↔
          ∃ p : ProgramSyntax,
            p.tokens = tokens ∧ p.node = tree) := by
  have hText :
      tokenize "test \"t\" \x7bgiven a = 1 \x7d" =
        .ok clauseBeforeBrace.tokens := by
    decide +kernel
  have hRefused :
      (ofTokens clauseBeforeBrace.tokens).program.1.isOk =
        false := by
    decide +kernel
  refine
    ⟨clauseBeforeBrace.tokens, clauseBeforeBrace.node, hText,
      ?_⟩
  intro hSame
  rw [hSame.mpr ⟨clauseBeforeBrace, rfl, rfl⟩] at hRefused
  cases hRefused

end Reader

------------------------------------------------------------
-- Sources
------------------------------------------------------------

namespace Source

/- A source without tokens has no program. -/
theorem program_of_lexical
    {source : String}
    {e : LexError}
    (h : tokenize source = .error e) :
    program source = .error (.lexical e) := by
  unfold program tokens
  rw [h]
  rfl

/- The program of a source is that of the reader of its tokens. -/
theorem program_of_tokenize
    {source : String}
    {list : List Token}
    (h : tokenize source = .ok list) :
    program source =
      (Reader.ofTokens list).program.1.mapError
        .structural := by
  unfold program tokens
  rw [h]
  rfl

end Source

end Rulebook
