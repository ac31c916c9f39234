import Rulebook.Proofs.Program.Grammar
import Rulebook.Proofs.Token.Alike

/-
  What has the grammar of a program keeps it when each of its
  tokens is exchanged for one of the same kind: the derivation
  of the new tokens is made of parts related to those of the
  old ones.

  Key definitions include:
    * `KeepsKinds`
    * `Grammar.RuleSyntax.Related`
    * `Grammar.TestSyntax.Related`
    * `Grammar.ProgramSyntax.Related`

  Main results:
    * `Grammar.ProgramSyntax.exists_related`
    * `Grammar.ProgramSyntax.EndsLines.of_related`
    * `Grammar.ProgramSyntax.Related.rules`
    * `Grammar.ProgramSyntax.Related.tests`
-/

namespace Rulebook

------------------------------------------------------------
-- Related Tokens
------------------------------------------------------------

/- Related tokens are of one kind. -/
def KeepsKinds (R : Token → Token → Prop) : Prop :=
  ∀ t u, R t u → t.kind = u.kind

variable {R : Token → Token → Prop}

/- What is known of the kinds of tokens goes over. -/
theorem KeepsKinds.forall_kinds
    {tokens others : List Token}
    (hR : KeepsKinds R)
    (P : TokenKind → Prop)
    (h : ∀ t ∈ tokens, P t.kind)
    (hSame : List.Forall₂ R tokens others) :
    ∀ u ∈ others, P u.kind := by
  induction hSame with
  | nil => simp
  | cons hFirst _ ih =>
      rw [List.forall_mem_cons] at h ⊢
      rw [← hR _ _ hFirst]
      exact ⟨h.1, ih h.2⟩

/- So does what is known of a line end. -/
theorem KeepsKinds.lineEnd
    {lineEnd lineEnd' : Option Token}
    (hR : KeepsKinds R)
    (h : ∀ t ∈ lineEnd, t.kind = .newline)
    (hSame : Option.Rel R lineEnd lineEnd') :
    ∀ u ∈ lineEnd', u.kind = .newline := by
  cases hSame with
  | none => simp
  | some hFirst =>
      intro u hU
      cases hU
      rw [← hR _ _ hFirst]
      exact h _ rfl

/- What is related to an optional token is one as well. -/
theorem exists_toList_of_forall₂
    {o : Option Token}
    {others : List Token}
    (h : List.Forall₂ R o.toList others) :
    ∃ o' : Option Token,
      o'.toList = others ∧ Option.Rel R o o' := by
  cases o with
  | none =>
      cases h
      exact ⟨none, rfl, .none⟩
  | some t =>
      cases h with
      | cons hFirst hNone =>
          cases hNone
          exact ⟨some _, rfl, .some hFirst⟩

/- Constructs are found for all tokens of a list of them. -/
theorem exists_flatMap_of_forall₂
    {α β : Type}
    {S : α → β → Prop}
    {f : α → List Token}
    {g : β → List Token}
    {list : List α}
    {others : List Token}
    (hOne :
      ∀ a tokens,
        List.Forall₂ R (f a) tokens →
          ∃ b, g b = tokens ∧ S a b)
    (h : List.Forall₂ R (list.flatMap f) others) :
    ∃ list',
      list'.flatMap g = others ∧
        List.Forall₂ S list list' := by
  induction list generalizing others with
  | nil =>
      cases h
      exact ⟨[], rfl, .nil⟩
  | cons a list ih =>
      rw [List.flatMap_cons] at h
      rcases exists_split_of_forall₂ h with
        ⟨front, back, rfl, hFront, hBack⟩
      rcases hOne a front hFront with ⟨b, rfl, hFirst⟩
      rcases ih hBack with ⟨list', rfl, hMore⟩
      exact ⟨b :: list', rfl, .cons hFirst hMore⟩

/- The tokens of related constructs are related. -/
theorem forall₂_flatMap
    {α β : Type}
    {S : α → β → Prop}
    {f : α → List Token}
    {g : β → List Token}
    {list : List α}
    {list' : List β}
    (hOne : ∀ a b, S a b → List.Forall₂ R (f a) (g b))
    (h : List.Forall₂ S list list') :
    List.Forall₂ R (list.flatMap f) (list'.flatMap g) := by
  induction h with
  | nil => exact .nil
  | cons hFirst _ ih =>
      rw [List.flatMap_cons, List.flatMap_cons]
      exact List.rel_append (hOne _ _ hFirst) ih

theorem forall₂_toList
    {o o' : Option Token}
    (h : Option.Rel R o o') :
    List.Forall₂ R o.toList o'.toList := by
  cases h with
  | none => exact .nil
  | some hFirst => exact .cons hFirst .nil

namespace Grammar

/- A span is still on one line. -/
theorem OnLine.of_related
    {span other : List Token}
    (hR : KeepsKinds R)
    (h : OnLine span)
    (hSame : List.Forall₂ R span other) : OnLine other :=
  hR.forall_kinds
    (fun kind => kind ≠ .newline ∧ kind ≠ .finish) h hSame

theorem LineEnds.of_related
    {gap other : List Token}
    (hR : KeepsKinds R)
    (h : LineEnds gap)
    (hSame : List.Forall₂ R gap other) : LineEnds other :=
  hR.forall_kinds (· = .newline) h hSame

/- There are names for tokens that are related to names. -/
theorem Names.exists_related
    {tokens others : List Token}
    {names : List String}
    (hR : KeepsKinds R)
    (h : Names tokens names)
    (hSame : List.Forall₂ R tokens others) :
    ∃ names', Names others names' := by
  induction h generalizing others with
  | none =>
      cases hSame
      exact ⟨[], .none⟩
  | more hDot hName hMore ih =>
      cases hSame with
      | cons hDotSame hBehind =>
          cases hBehind with
          | cons hNameSame hMoreSame =>
              rcases ih hMoreSame with ⟨names', hNames⟩
              exact
                ⟨_,
                  .more ((hR _ _ hDotSame).symm.trans hDot)
                    ((hR _ _ hNameSame).symm.trans hName)
                    hNames⟩

/- A span still has the end of its line behind it. -/
theorem EndsLine.of_related
    {lineEnd lineEnd' : Option Token}
    {behind behind' : List Token}
    (hR : KeepsKinds R)
    (h : EndsLine lineEnd behind)
    (hLineEnd : Option.Rel R lineEnd lineEnd')
    (hBehind : List.Forall₂ R behind behind') :
    EndsLine lineEnd' behind' := by
  intro hNone
  subst hNone
  cases hLineEnd
  have hHead := h rfl
  cases hBehind with
  | nil => simp
  | cons hFirst _ =>
      simpa [← hR _ _ hFirst] using hHead

------------------------------------------------------------
-- Rules
------------------------------------------------------------

/- Rules whose tokens are related one by one. -/
structure RuleSyntax.Related
    (R : Token → Token → Prop)
    (r s : RuleSyntax) : Prop where
  word : R r.word s.word
  name : R r.name s.name
  whenWord : R r.whenWord s.whenWord
  condition : List.Forall₂ R r.condition s.condition
  thenWord : R r.thenWord s.thenWord
  first : R r.first s.first
  more : List.Forall₂ R r.more s.more
  sign : R r.sign s.sign
  value : List.Forall₂ R r.value s.value
  lineEnd : Option.Rel R r.lineEnd s.lineEnd

/- Tokens related to those of a rule are those of a rule. -/
theorem RuleSyntax.exists_related
    {others : List Token}
    (hR : KeepsKinds R)
    (r : RuleSyntax)
    (h : List.Forall₂ R r.tokens others) :
    ∃ s : RuleSyntax, s.tokens = others ∧ r.Related R s := by
  -- The tokens are split where those of the rule are split,
  -- the last part first.
  rcases List.forall₂_cons_left_iff.mp h with
    ⟨word, behind, hWord, hBehind, rfl⟩
  rcases exists_split_of_forall₂ hBehind with
    ⟨_, _, rfl, hToValue, hRest⟩
  rcases exists_split_of_forall₂ hToValue with
    ⟨_, _, rfl, hToTarget, hAssigned⟩
  rcases exists_split_of_forall₂ hToTarget with
    ⟨_, _, rfl, hTested, hTarget⟩
  rcases List.forall₂_cons_left_iff.mp hTested with
    ⟨name, _, hName, hWhenOn, rfl⟩
  rcases List.forall₂_cons_left_iff.mp hWhenOn with
    ⟨whenWord, condition, hWhen, hCondition, rfl⟩
  rcases List.forall₂_cons_left_iff.mp hTarget with
    ⟨thenWord, _, hThen, hFirstOn, rfl⟩
  rcases List.forall₂_cons_left_iff.mp hFirstOn with
    ⟨first, more, hFirst, hMore, rfl⟩
  rcases List.forall₂_cons_left_iff.mp hAssigned with
    ⟨sign, value, hSign, hValue, rfl⟩
  rcases exists_toList_of_forall₂ hRest with
    ⟨lineEnd, rfl, hLineEnd⟩
  rcases r.hMore.exists_related hR hMore with
    ⟨names, hNames⟩
  exact
    ⟨{ word, name, whenWord, condition, thenWord, first, more
       names, sign, value, lineEnd
       hWord := (hR _ _ hWord).symm.trans r.hWord
       hName := (hR _ _ hName).symm.trans r.hName
       hWhen := (hR _ _ hWhen).symm.trans r.hWhen
       hCondition := r.hCondition.of_related hR hCondition
       hBeforeThen :=
         hR.forall_kinds (· ≠ .keyword .andThen) r.hBeforeThen
           hCondition
       hThen := (hR _ _ hThen).symm.trans r.hThen
       hFirst := (hR _ _ hFirst).symm.trans r.hFirst
       hMore := hNames
       hSign := (hR _ _ hSign).symm.trans r.hSign
       hValue := r.hValue.of_related hR hValue
       hLineEnd := hR.lineEnd r.hLineEnd hLineEnd },
      rfl,
      ⟨hWord, hName, hWhen, hCondition, hThen, hFirst, hMore,
        hSign, hValue, hLineEnd⟩⟩

/- The tokens of related rules are related. -/
theorem RuleSyntax.Related.tokens
    {r s : RuleSyntax}
    (h : r.Related R s) :
    List.Forall₂ R r.tokens s.tokens := by
  have hTested :=
    List.Forall₂.cons h.name (.cons h.whenWord h.condition)
  have hTarget :=
    List.Forall₂.cons h.thenWord (.cons h.first h.more)
  have hAssigned := List.Forall₂.cons h.sign h.value
  exact
    .cons h.word
      (List.rel_append
        (List.rel_append (List.rel_append hTested hTarget)
          hAssigned)
        (forall₂_toList h.lineEnd))

------------------------------------------------------------
-- Tests
------------------------------------------------------------

/- Clauses of one kind whose tokens are related one by one. -/
structure ClauseSyntax.Related
    (R : Token → Token → Prop)
    (c d : ClauseSyntax) : Prop where
  kind : c.kind = d.kind
  word : R c.word d.word
  span : List.Forall₂ R c.span d.span
  lineEnd : Option.Rel R c.lineEnd d.lineEnd

theorem ClauseSyntax.exists_related
    {others : List Token}
    (hR : KeepsKinds R)
    (c : ClauseSyntax)
    (h : List.Forall₂ R c.tokens others) :
    ∃ d : ClauseSyntax,
      d.tokens = others ∧ c.Related R d := by
  rcases exists_split_of_forall₂ h with
    ⟨_, _, rfl, hClause, hRest⟩
  rcases List.forall₂_cons_left_iff.mp hClause with
    ⟨word, span, hWord, hSpan, rfl⟩
  rcases exists_toList_of_forall₂ hRest with
    ⟨lineEnd, rfl, hLineEnd⟩
  exact
    ⟨{ kind := c.kind
       word, span, lineEnd
       hWord := (hR _ _ hWord) ▸ c.hWord
       hSpan := c.hSpan.of_related hR hSpan
       hLineEnd := hR.lineEnd c.hLineEnd hLineEnd },
      rfl, ⟨rfl, hWord, hSpan, hLineEnd⟩⟩

/- The tokens of related clauses are related. -/
theorem ClauseSyntax.Related.tokens
    {c d : ClauseSyntax}
    (h : c.Related R d) :
    List.Forall₂ R c.tokens d.tokens :=
  List.rel_append (.cons h.word h.span)
    (forall₂_toList h.lineEnd)

/- Lines of tests whose tokens are related one by one. -/
inductive TestLine.Related
    (R : Token → Token → Prop) :
    TestLine → TestLine → Prop where
  | blank
      {t u : Token}
      {hT : t.kind = .newline}
      {hU : u.kind = .newline}
      (hLineEnd : R t u) :
      Related R (.blank t hT) (.blank u hU)
  | clause
      {c d : ClauseSyntax}
      (hClause : c.Related R d) :
      Related R (.clause c) (.clause d)

theorem TestLine.exists_related
    (hR : KeepsKinds R)
    (line : TestLine)
    (others : List Token)
    (h : List.Forall₂ R line.tokens others) :
    ∃ line' : TestLine,
      line'.tokens = others ∧ line.Related R line' := by
  cases line with
  | blank t hT =>
      rcases List.forall₂_cons_left_iff.mp h with
        ⟨u, _, hFirst, hNone, rfl⟩
      cases hNone
      exact
        ⟨.blank u ((hR _ _ hFirst).symm.trans hT), rfl,
          .blank hFirst⟩
  | clause c =>
      rcases c.exists_related hR h with ⟨d, rfl, hClause⟩
      exact ⟨.clause d, rfl, .clause hClause⟩

theorem TestLine.Related.tokens
    {line line' : TestLine}
    (h : line.Related R line') :
    List.Forall₂ R line.tokens line'.tokens := by
  cases h with
  | blank hLineEnd => exact .cons hLineEnd .nil
  | clause hClause => exact hClause.tokens

/- Related lines still reach to their ends. -/
theorem LinesEnd.of_related
    {lines lines' : List TestLine}
    {behind behind' : List Token}
    (hR : KeepsKinds R)
    (h : LinesEnd lines behind)
    (hLines : List.Forall₂ (TestLine.Related R) lines lines')
    (hBehind : List.Forall₂ R behind behind') :
    LinesEnd lines' behind' := by
  induction hLines with
  | nil => exact h
  | cons hFirst hMore ih =>
      cases hFirst with
      | blank _ => exact ih h
      | clause hClause =>
          have hTokens :=
            List.rel_append
              (forall₂_flatMap
                (fun _ _ hLine => hLine.tokens) hMore)
              hBehind
          exact
            ⟨h.1.of_related hR hClause.lineEnd hTokens, ih h.2⟩

/- Tests whose tokens are related one by one. -/
structure TestSyntax.Related
    (R : Token → Token → Prop)
    (t u : TestSyntax) : Prop where
  word : R t.word u.word
  name : R t.name u.name
  opening : R t.opening u.opening
  lines : List.Forall₂ (TestLine.Related R) t.lines u.lines
  closing : R t.closing u.closing
  lineEnd : Option.Rel R t.lineEnd u.lineEnd

theorem TestSyntax.exists_related
    {others : List Token}
    (hR : KeepsKinds R)
    (t : TestSyntax)
    (h : List.Forall₂ R t.tokens others) :
    ∃ u : TestSyntax, u.tokens = others ∧ t.Related R u := by
  rcases List.forall₂_cons_left_iff.mp h with
    ⟨word, _, hWord, hBehind, rfl⟩
  rcases exists_split_of_forall₂ hBehind with
    ⟨_, _, rfl, hFront, hBack⟩
  rcases List.forall₂_cons_left_iff.mp hFront with
    ⟨name, _, hName, hOpeningOn, rfl⟩
  rcases List.forall₂_cons_left_iff.mp hOpeningOn with
    ⟨opening, _, hOpening, hBetween, rfl⟩
  rcases List.forall₂_cons_left_iff.mp hBack with
    ⟨closing, _, hClosing, hRest, rfl⟩
  rcases exists_toList_of_forall₂ hRest with
    ⟨lineEnd, rfl, hLineEnd⟩
  rcases exists_flatMap_of_forall₂
      (TestLine.exists_related hR) hBetween with
    ⟨lines, rfl, hLines⟩
  exact
    ⟨{ word, name, opening, lines, closing, lineEnd
       hWord := (hR _ _ hWord).symm.trans t.hWord
       hName := (hR _ _ hName).symm.trans t.hName
       hOpening := (hR _ _ hOpening).symm.trans t.hOpening
       hClosing := (hR _ _ hClosing).symm.trans t.hClosing
       hLineEnd := hR.lineEnd t.hLineEnd hLineEnd },
      rfl,
      ⟨hWord, hName, hOpening, hLines, hClosing, hLineEnd⟩⟩

theorem TestSyntax.Related.tokens
    {t u : TestSyntax}
    (h : t.Related R u) :
    List.Forall₂ R t.tokens u.tokens := by
  have hLines :=
    forall₂_flatMap (fun _ _ hLine => hLine.tokens) h.lines
  exact
    .cons h.word
      (List.rel_append
        (.cons h.name (.cons h.opening hLines))
        (.cons h.closing (forall₂_toList h.lineEnd)))

/- Related tests have related clauses. -/
theorem TestSyntax.Related.clauses
    {t u : TestSyntax}
    (h : t.Related R u) :
    List.Forall₂ (ClauseSyntax.Related R)
      t.clauses u.clauses := by
  refine List.rel_filterMap ?_ h.lines
  intro line line' hLine
  cases hLine with
  | blank _ => exact .none
  | clause hClause => exact .some hClause

------------------------------------------------------------
-- Programs
------------------------------------------------------------

/- Rules or tests whose tokens are related one by one. -/
inductive Construct.Related
    (R : Token → Token → Prop) :
    Construct → Construct → Prop where
  | rule
      {r s : RuleSyntax}
      (hRule : r.Related R s) :
      Related R (.rule r) (.rule s)
  | test
      {t u : TestSyntax}
      (hTest : t.Related R u) :
      Related R (.test t) (.test u)

theorem Construct.exists_related
    {others : List Token}
    (hR : KeepsKinds R)
    (c : Construct)
    (h : List.Forall₂ R c.tokens others) :
    ∃ d : Construct, d.tokens = others ∧ c.Related R d := by
  cases c with
  | rule r =>
      rcases r.exists_related hR h with ⟨s, rfl, hRule⟩
      exact ⟨.rule s, rfl, .rule hRule⟩
  | test t =>
      rcases t.exists_related hR h with ⟨u, rfl, hTest⟩
      exact ⟨.test u, rfl, .test hTest⟩

theorem Construct.Related.tokens
    {c d : Construct}
    (h : c.Related R d) :
    List.Forall₂ R c.tokens d.tokens := by
  cases h with
  | rule hRule => exact hRule.tokens
  | test hTest => exact hTest.tokens

theorem Construct.EndsLines.of_related
    {c d : Construct}
    {behind behind' : List Token}
    (hR : KeepsKinds R)
    (h : c.EndsLines behind)
    (hSame : c.Related R d)
    (hBehind : List.Forall₂ R behind behind') :
    d.EndsLines behind' := by
  cases hSame with
  | rule hRule =>
      exact EndsLine.of_related hR h hRule.lineEnd hBehind
  | test hTest =>
      exact
        LinesEnd.of_related hR h hTest.lines
          (.cons hTest.closing .nil)

/- Items whose tokens are related one by one. -/
structure Item.Related
    (R : Token → Token → Prop)
    (item item' : Item) : Prop where
  gap : List.Forall₂ R item.gap item'.gap
  construct : item.construct.Related R item'.construct

theorem Item.exists_related
    (hR : KeepsKinds R)
    (item : Item)
    (others : List Token)
    (h : List.Forall₂ R item.tokens others) :
    ∃ item' : Item,
      item'.tokens = others ∧ item.Related R item' := by
  rcases exists_split_of_forall₂ h with
    ⟨gap, _, rfl, hGap, hBehind⟩
  rcases item.construct.exists_related hR hBehind with
    ⟨construct, rfl, hConstruct⟩
  exact
    ⟨⟨gap, construct, item.hGap.of_related hR hGap⟩, rfl,
      ⟨hGap, hConstruct⟩⟩

theorem Item.Related.tokens
    {item item' : Item}
    (h : item.Related R item') :
    List.Forall₂ R item.tokens item'.tokens :=
  List.rel_append h.gap h.construct.tokens

theorem ItemsEnd.of_related
    {items items' : List Item}
    {behind behind' : List Token}
    (hR : KeepsKinds R)
    (h : ItemsEnd items behind)
    (hItems : List.Forall₂ (Item.Related R) items items')
    (hBehind : List.Forall₂ R behind behind') :
    ItemsEnd items' behind' := by
  induction hItems with
  | nil => exact h
  | cons hFirst hMore ih =>
      have hTokens :=
        List.rel_append
          (forall₂_flatMap (fun _ _ hItem => hItem.tokens)
            hMore)
          hBehind
      exact
        ⟨h.1.of_related hR hFirst.construct hTokens, ih h.2⟩

/- Programs whose tokens are related one by one. -/
structure ProgramSyntax.Related
    (R : Token → Token → Prop)
    (p q : ProgramSyntax) : Prop where
  items : List.Forall₂ (Item.Related R) p.items q.items
  gap : List.Forall₂ R p.gap q.gap
  finish : R p.finish q.finish

namespace ProgramSyntax

variable {p q : ProgramSyntax}

/- Tokens related to those of a program are a program. -/
theorem exists_related
    {others : List Token}
    (hR : KeepsKinds R)
    (p : ProgramSyntax)
    (h : List.Forall₂ R p.tokens others) :
    ∃ q : ProgramSyntax,
      q.tokens = others ∧ p.Related R q := by
  rcases exists_split_of_forall₂ h with
    ⟨_, _, rfl, hBody, hEnd⟩
  rcases exists_split_of_forall₂ hBody with
    ⟨_, gap, rfl, hFront, hGap⟩
  rcases exists_flatMap_of_forall₂ (Item.exists_related hR)
      hFront with
    ⟨items, rfl, hItems⟩
  rcases List.forall₂_cons_left_iff.mp hEnd with
    ⟨finish, _, hFinish, hNone, rfl⟩
  cases hNone
  exact
    ⟨{ items, gap, finish
       hGap := p.hGap.of_related hR hGap
       hFinish := (hR _ _ hFinish).symm.trans p.hFinish },
      rfl, ⟨hItems, hGap, hFinish⟩⟩

/- Its spans reach to the ends of lines if they did before. -/
theorem EndsLines.of_related
    (hR : KeepsKinds R)
    (h : p.EndsLines)
    (hSame : p.Related R q) : q.EndsLines :=
  ItemsEnd.of_related hR h hSame.items hSame.gap

theorem Related.constructs
    (h : p.Related R q) :
    List.Forall₂ (Construct.Related R)
      p.constructs q.constructs :=
  List.rel_map (fun _ _ hItem => hItem.construct) h.items

/- Related programs have related rules and related tests. -/
theorem Related.rules
    (h : p.Related R q) :
    List.Forall₂ (RuleSyntax.Related R) p.rules q.rules := by
  refine List.rel_filterMap ?_ h.constructs
  intro c d hConstruct
  cases hConstruct with
  | rule hRule => exact .some hRule
  | test _ => exact .none

theorem Related.tests
    (h : p.Related R q) :
    List.Forall₂ (TestSyntax.Related R) p.tests q.tests := by
  refine List.rel_filterMap ?_ h.constructs
  intro c d hConstruct
  cases hConstruct with
  | rule _ => exact .none
  | test hTest => exact .some hTest

end ProgramSyntax

end Grammar

end Rulebook
