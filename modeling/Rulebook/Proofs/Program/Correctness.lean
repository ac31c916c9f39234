import Rulebook.Proofs.Program.Grammar
import Rulebook.Proofs.Results

/-
  The reader of programs and the grammar agree, if every span
  goes on to the end of its line.

  Main results:
    * `Node.ruleReading_sound`
    * `Node.ruleReading_complete`
    * `Node.clauses_sound`
    * `Node.clauses_complete`
    * `Node.items_sound`
    * `Node.items_complete`
    * `Reader.program_eq_ok_iff`
-/

namespace Rulebook

open Grammar

------------------------------------------------------------
-- The Forms Of The Reader
------------------------------------------------------------

namespace Grammar

theorem introduces_iff
    {kind : TokenKind}
    {node : NodeKind} :
    Introduces kind node ↔
      Node.clauseKind? kind = some node := by
  constructor
  · intro h
    cases h <;> rfl
  · intro h
    unfold Node.clauseKind? at h
    split at h <;> cases h <;> constructor

/- An expression is kept as the reader keeps it. -/
theorem expressionNode_eq_ofTokens
    (kind : NodeKind)
    (span : List Token)
    (otherwise : Token) :
    expressionNode kind span (placeOf otherwise span) =
      Node.ofTokens kind span otherwise.position := by
  cases span <;> rfl

/- A line end comes first behind a span that ends its line. -/
theorem head?_of_endsLine
    {lineEnd : Option Token}
    {behind : List Token}
    (hLineEnd : ∀ t ∈ lineEnd, t.kind = .newline)
    (hEnds : EndsLine lineEnd behind) :
    ∀ t ∈ (lineEnd.toList ++ behind).head?,
      t.kind = .newline := by
  cases lineEnd with
  | none => exact hEnds rfl
  | some first =>
      intro t hT
      cases hT
      exact hLineEnd first rfl

end Grammar

namespace Node

open Reading

------------------------------------------------------------
-- Rules
------------------------------------------------------------

/- The target of a rule is read as far as dots go on. -/
theorem targetReading_eq_ok_iff
    {tokens rest : List Token}
    {node : Node} :
    targetReading tokens = .ok (node, rest) ↔
      ∃ first more names,
        tokens = first :: more ++ rest ∧
          first.kind = .identifier ∧
          Names more names ∧
          (∀ d ∈ rest.head?, d.kind ≠ .symbol .dot) ∧
          node =
            { kind := .target
              content :=
                ".".intercalate (first.lexeme :: names)
              position := first.position
              children := [] } := by
  simp only [targetReading, bind_eq_ok_iff,
    expect_eq_ok_iff, moreNames_eq_ok_iff, pure_eq_ok_iff]
  constructor
  · rintro ⟨first, _, ⟨rfl, hFirst⟩, names, rest',
      ⟨more, rfl, hMore, hRest⟩, rfl, rfl⟩
    exact
      ⟨first, more, names, rfl, hFirst, hMore, hRest, rfl⟩
  · rintro ⟨first, more, names, rfl, hFirst, hMore, hRest,
      rfl⟩
    exact
      ⟨first, more ++ rest, ⟨rfl, hFirst⟩, names, rest,
        ⟨more, rfl, hMore, hRest⟩, rfl, rfl⟩

/- A rule that was read is one of the grammar. -/
theorem ruleReading_sound
    {word : Token}
    {tokens rest : List Token}
    {node : Node}
    (hWord : word.kind = .keyword .rule)
    (hTokens : ∀ t ∈ tokens, t.kind ≠ .finish)
    (h :
      ruleReading word.position tokens = .ok (node, rest)) :
    ∃ r : RuleSyntax,
      word :: tokens = r.tokens ++ rest ∧
        node = r.node ∧
        EndsLine r.lineEnd rest := by
  simp only [ruleReading, bind_eq_ok_iff,
    expect_eq_ok_iff, line_eq_ok_iff, pure_eq_ok_iff,
    targetReading_eq_ok_iff] at h
  rcases h with
    ⟨name, _, ⟨rfl, hName⟩, whenWord, _, ⟨rfl, hWhen⟩,
      condition, _, ⟨rfl, hCondition, _⟩,
      thenWord, _, ⟨rfl, hThen⟩,
      _, _, ⟨first, more, names, rfl, hFirst, hMore, _, rfl⟩,
      sign, _, ⟨rfl, hSign⟩,
      value, behind, ⟨rfl, hValue, hBehind⟩,
      _, _, hSkip, rfl, rfl⟩
  rcases exists_skip .newline behind with
    ⟨lineEnd, left, hLeft, rfl, hLineEnd⟩
  rw [hSkip] at hLeft
  cases hLeft
  have hConditionLine : OnLine condition := by
    intro t hT
    exact ⟨(hCondition t hT).1, hTokens t (by simp [hT])⟩
  have hBeforeThen :
      ∀ t ∈ condition, t.kind ≠ .keyword .andThen := by
    intro t hT
    simpa using (hCondition t hT).2
  have hValueLine : OnLine value := by
    intro t hT
    exact ⟨(hValue t hT).1, hTokens t (by simp [hT])⟩
  refine
    ⟨{ word, name, whenWord, condition, thenWord, first,
       more, names, sign, value, lineEnd, hWord, hName,
       hWhen, hCondition := hConditionLine, hBeforeThen,
       hThen, hFirst, hMore, hSign, hValue := hValueLine,
       hLineEnd }, ?_, ?_, ?_⟩
  · simp [RuleSyntax.tokens, RuleSyntax.behindWord]
  · simp only [RuleSyntax.node, RuleSyntax.whenNode,
      RuleSyntax.setNode, RuleSyntax.targetNode,
      RuleSyntax.valueNode, RuleSyntax.target,
      expressionNode_eq_ofTokens]
  · intro hNone t hT
    have hNone : lineEnd = none := hNone
    subst hNone
    simpa using hBehind t hT

/- What is left behind a rule of the grammar. -/
theorem ruleReading_complete
    (r : RuleSyntax)
    {behind : List Token}
    (hEnds : EndsLine r.lineEnd behind) :
    ∃ (lineEnd : Option Token) (rest : List Token),
      ruleReading r.word.position (r.behindWord ++ behind) =
          .ok (r.node, rest) ∧
        r.lineEnd.toList ++ behind = lineEnd.toList ++ rest ∧
        ∀ t ∈ lineEnd, t.kind = .newline := by
  rcases exists_skip .newline (r.lineEnd.toList ++ behind)
    with ⟨lineEnd, rest, hSkip, hRest, hLineEnd⟩
  refine ⟨lineEnd, rest, ?_, hRest, hLineEnd⟩
  have hBehind :
      ∀ t ∈ (r.lineEnd.toList ++ behind).head?,
        t.kind = .newline :=
    head?_of_endsLine r.hLineEnd hEnds
  simp only [ruleReading, bind_eq_ok_iff,
    expect_eq_ok_iff, line_eq_ok_iff, pure_eq_ok_iff,
    targetReading_eq_ok_iff]
  refine
    ⟨r.name, _, ⟨rfl, r.hName⟩, r.whenWord,
      r.condition ++ r.thenWord :: r.first ::
        (r.more ++ r.sign ::
          (r.value ++ (r.lineEnd.toList ++ behind))),
      ⟨?_, r.hWhen⟩, r.condition, _,
      ⟨rfl, ?_, ?_⟩,
      r.thenWord, _, ⟨rfl, r.hThen⟩,
      r.targetNode, _,
      ⟨r.first, r.more, r.names, rfl, r.hFirst, r.hMore,
        ?_, rfl⟩,
      r.sign, _, ⟨rfl, r.hSign⟩,
      r.value, _, ⟨rfl, ?_, ?_⟩,
      (), _, hSkip, ?_, rfl⟩
  · simp
  · intro t hT
    exact
      ⟨(r.hCondition t hT).1,
        by simpa using r.hBeforeThen t hT⟩
  · intro t hT
    cases hT
    simp [r.hThen]
  · intro t hT
    cases hT
    simp [r.hSign]
  · intro t hT
    exact ⟨(r.hValue t hT).1, trivial⟩
  · intro t hT
    exact .inl (hBehind t hT)
  · simp only [RuleSyntax.node, RuleSyntax.whenNode,
      RuleSyntax.setNode, RuleSyntax.valueNode,
      expressionNode_eq_ofTokens]

------------------------------------------------------------
-- Clauses
------------------------------------------------------------

/- A line end between the braces says nothing. -/
theorem clauses_newline
    {t : Token}
    {tokens : List Token}
    (h : t.kind = .newline) :
    clauses (t :: tokens) = clauses tokens := by
  rw [clauses, h]
  simp [clauseKind?]

/- The closing brace ends the clauses. -/
theorem clauses_closing
    {t : Token}
    {tokens : List Token}
    (h : t.kind = .symbol .rightBrace) :
    clauses (t :: tokens) = .ok ([], tokens) := by
  rw [clauses, h]
  simp [clauseKind?]

/- A clause is kept with the tokens of its line. -/
theorem clauses_word
    {kind : NodeKind}
    {t : Token}
    {tokens : List Token}
    (h : Introduces t.kind kind) :
    clauses (t :: tokens) =
      (clauses (afterLine tokens)).map fun r =>
        (expressionNode kind (lineOf tokens) t.position ::
          r.1, r.2) := by
  rw [clauses, introduces_iff.mp h]
  simp only [expressionNode]
  cases clauses (afterLine tokens) <;> rfl

/- A line, its end, and what follows it. -/
theorem exists_lineEnd (tokens : List Token) :
    ∃ lineEnd : Option Token,
      tokens =
          lineOf tokens ++
            (lineEnd.toList ++ afterLine tokens) ∧
        (∀ t ∈ lineEnd, t.kind = .newline) ∧
        (lineEnd = none → afterLine tokens = []) := by
  have hSplit :
      lineOf tokens ++
          tokens.dropWhile (·.kind != .newline) =
        tokens :=
    List.takeWhile_append_dropWhile
  have hEnd :
      ∀ t ∈ (tokens.dropWhile (·.kind != .newline)).head?,
        t.kind = .newline := by
    intro t hT
    simpa using head?_dropWhile_outside t hT
  unfold afterLine
  cases hRest : tokens.dropWhile (·.kind != .newline) with
  | nil =>
      rw [hRest] at hSplit
      exact ⟨none, hSplit.symm, by simp, fun _ => rfl⟩
  | cons t rest =>
      rw [hRest] at hSplit hEnd
      refine ⟨some t, hSplit.symm, ?_, by simp⟩
      intro u hU
      cases hU
      exact hEnd t rfl

/- A word of a clause and the line behind it are a clause. -/
theorem exists_clause
    {kind : NodeKind}
    {t : Token}
    {tokens : List Token}
    (hWord : Introduces t.kind kind)
    (hTokens : ∀ u ∈ tokens, u.kind ≠ .finish) :
    ∃ c : ClauseSyntax,
      t :: tokens = c.tokens ++ afterLine tokens ∧
        c.node =
          expressionNode kind (lineOf tokens) t.position ∧
        (c.lineEnd = none → afterLine tokens = []) := by
  rcases exists_lineEnd tokens with
    ⟨lineEnd, hSplit, hLineEnd, hNone⟩
  have hSpan : OnLine (lineOf tokens) := by
    intro u hU
    have hIn : u ∈ tokens :=
      (List.takeWhile_prefix _).subset hU
    exact
      ⟨by simpa using of_mem_takeWhile u hU, hTokens u hIn⟩
  refine
    ⟨{ kind, word := t, span := lineOf tokens, lineEnd,
       hWord, hSpan, hLineEnd }, ?_, rfl, hNone⟩
  rw [ClauseSyntax.tokens, List.cons_append,
    List.cons_append, List.append_assoc]
  exact congrArg (t :: ·) hSplit

/- The clauses that were read are those of the grammar. -/
theorem clauses_sound
    {tokens rest : List Token}
    {nodes : List Node}
    (hTokens : ∀ t ∈ tokens, t.kind ≠ .finish)
    (h : clauses tokens = .ok (nodes, rest)) :
    ∃ (lines : List TestLine) (closing : Token),
      tokens =
          lines.flatMap TestLine.tokens ++ closing :: rest ∧
        closing.kind = .symbol .rightBrace ∧
        nodes =
          (lines.filterMap TestLine.clause?).map
            ClauseSyntax.node ∧
        LinesEnd lines [closing] := by
  fun_induction clauses tokens generalizing nodes with
  | case1 => cases h
  | case2 t tokens kind hKind node found left hRun =>
      rename_i ih
      cases h
      have hBehind : ∀ u ∈ tokens, u.kind ≠ .finish :=
        (List.forall_mem_cons.mp hTokens).2
      have hLeft :
          ∀ u ∈ afterLine tokens, u.kind ≠ .finish :=
        fun u hU =>
          hBehind u ((afterLine_suffix tokens).subset hU)
      rcases exists_clause (introduces_iff.mpr hKind) hBehind
        with ⟨c, hClause, hNode, hNone⟩
      rcases ih hLeft hRun with
        ⟨lines, closing, hLines, hClosing, rfl, hEnds⟩
      have hHere :
          EndsLine c.lineEnd
            (lines.flatMap TestLine.tokens ++ [closing]) := by
        -- The closing brace is still ahead, so the line did end.
        intro hEmpty
        have hNothing := hNone hEmpty
        rw [hLines] at hNothing
        simp at hNothing
      refine
        ⟨.clause c :: lines, closing, ?_, hClosing, ?_, hHere,
          hEnds⟩
      · rw [hClause, hLines, List.flatMap_cons,
          List.append_assoc]
        rfl
      · exact congrArg (· :: _) hNode.symm
  | case3 t tokens kind hKind node refusal hRun => cases h
  | case4 t tokens hKind hClosing =>
      cases h
      exact ⟨[], t, rfl, hClosing, rfl, trivial⟩
  | case5 t tokens hKind hClosing hLine ih =>
      have hLeft : ∀ t ∈ tokens, t.kind ≠ .finish :=
        (List.forall_mem_cons.mp hTokens).2
      rcases ih hLeft h with
        ⟨lines, closing, rfl, hBrace, rfl, hEnds⟩
      exact
        ⟨.blank t hLine :: lines, closing, rfl, hBrace, rfl,
          hEnds⟩
  | case6 t tokens hKind hClosing hLine => cases h

/- A clause of the grammar is taken with its line. -/
theorem clauses_clause
    (c : ClauseSyntax)
    {behind : List Token}
    (hEnds : EndsLine c.lineEnd behind) :
    clauses (c.tokens ++ behind) =
      (clauses behind).map fun r => (c.node :: r.1, r.2) := by
  have hSpan :
      ∀ t ∈ c.span, (t.kind != .newline) = true := by
    intro t hT
    simpa using (c.hSpan t hT).1
  have hBehind :
      ∀ t ∈ (c.lineEnd.toList ++ behind).head?,
        (t.kind != .newline) = false := by
    intro t hT
    simpa using head?_of_endsLine c.hLineEnd hEnds t hT
  have hLine :
      lineOf (c.span ++ (c.lineEnd.toList ++ behind)) =
        c.span :=
    takeWhile_run hSpan hBehind
  have hAfter :
      afterLine (c.span ++ (c.lineEnd.toList ++ behind)) =
        (c.lineEnd.toList ++ behind).drop 1 :=
    congrArg (List.drop 1) (dropWhile_run hSpan hBehind)
  have hSame :
      clauses ((c.lineEnd.toList ++ behind).drop 1) =
        clauses behind := by
    cases hLineEnd : c.lineEnd with
    | some t => rfl
    | none =>
        cases behind with
        | nil => rfl
        | cons t behind =>
            -- The reader takes the line end of a blank line.
            exact
              (clauses_newline (hEnds hLineEnd t rfl)).symm
  rw [ClauseSyntax.tokens, List.cons_append,
    List.cons_append, List.append_assoc,
    clauses_word c.hWord, hLine, hAfter, hSame]
  rfl

/- The clauses of the grammar are read. -/
theorem clauses_complete
    {lines : List TestLine}
    {closing : Token}
    (rest : List Token)
    (hClosing : closing.kind = .symbol .rightBrace)
    (hEnds : LinesEnd lines [closing]) :
    clauses
        (lines.flatMap TestLine.tokens ++ closing :: rest) =
      .ok
        ((lines.filterMap TestLine.clause?).map
          ClauseSyntax.node, rest) := by
  induction lines with
  | nil => exact clauses_closing hClosing
  | cons line lines ih =>
      cases line with
      | blank t hLine =>
          have hMore := ih hEnds
          rw [List.flatMap_cons, TestLine.tokens,
            List.singleton_append, List.cons_append,
            clauses_newline hLine, hMore]
          rfl
      | clause c =>
          rcases hEnds with ⟨hHere, hLater⟩
          have hBehind :
              EndsLine c.lineEnd
                (lines.flatMap TestLine.tokens ++
                  closing :: rest) := by
            intro hNone t hT
            apply hHere hNone t
            rw [List.head?_append] at hT ⊢
            exact hT
          rw [List.flatMap_cons, TestLine.tokens,
            List.append_assoc, clauses_clause c hBehind,
            ih hLater]
          rfl

------------------------------------------------------------
-- Tests
------------------------------------------------------------

/- A test that was read is one of the grammar. -/
theorem testReading_sound
    {word : Token}
    {tokens rest : List Token}
    {node : Node}
    (hWord : word.kind = .keyword .test)
    (hTokens : ∀ t ∈ tokens, t.kind ≠ .finish)
    (h :
      testReading word.position tokens = .ok (node, rest)) :
    ∃ t : TestSyntax,
      word :: tokens = t.tokens ++ rest ∧
        node = t.node ∧
        LinesEnd t.lines [t.closing] := by
  simp only [testReading, bind_eq_ok_iff,
    expect_eq_ok_iff, pure_eq_ok_iff] at h
  rcases h with
    ⟨name, _, ⟨rfl, hName⟩, opening, inner,
      ⟨rfl, hOpening⟩, nodes, behind, hClauses,
      _, _, hSkip, rfl, rfl⟩
  rcases exists_skip .newline behind with
    ⟨lineEnd, left, hLeft, rfl, hLineEnd⟩
  rw [hSkip] at hLeft
  cases hLeft
  have hInner : ∀ t ∈ inner, t.kind ≠ .finish := by
    intro t hT
    exact hTokens t (by simp [hT])
  rcases clauses_sound hInner hClauses with
    ⟨lines, closing, rfl, hClosing, rfl, hEnds⟩
  refine
    ⟨{ word, name, opening, lines, closing, lineEnd, hWord,
       hName, hOpening, hClosing, hLineEnd }, ?_, rfl, hEnds⟩
  simp [TestSyntax.tokens, TestSyntax.behindWord]

/- What is left behind a test of the grammar. -/
theorem testReading_complete
    (t : TestSyntax)
    (behind : List Token)
    (hEnds : LinesEnd t.lines [t.closing]) :
    ∃ (lineEnd : Option Token) (rest : List Token),
      testReading t.word.position (t.behindWord ++ behind) =
          .ok (t.node, rest) ∧
        t.lineEnd.toList ++ behind = lineEnd.toList ++ rest ∧
        ∀ u ∈ lineEnd, u.kind = .newline := by
  rcases exists_skip .newline (t.lineEnd.toList ++ behind)
    with ⟨lineEnd, rest, hSkip, hRest, hLineEnd⟩
  refine ⟨lineEnd, rest, ?_, hRest, hLineEnd⟩
  simp only [testReading, bind_eq_ok_iff,
    expect_eq_ok_iff, pure_eq_ok_iff]
  refine
    ⟨t.name, _, ⟨rfl, t.hName⟩, t.opening,
      t.lines.flatMap TestLine.tokens ++
        t.closing :: (t.lineEnd.toList ++ behind),
      ⟨?_, t.hOpening⟩, t.clauses.map ClauseSyntax.node,
      t.lineEnd.toList ++ behind, ?_, (), rest, hSkip, rfl,
      rfl⟩
  · simp
  · exact clauses_complete _ t.hClosing hEnds

------------------------------------------------------------
-- Items
------------------------------------------------------------

/- A line end between rules and tests says nothing. -/
theorem items_newline
    {t : Token}
    {tokens : List Token}
    (h : t.kind = .newline) :
    items (t :: tokens) = items tokens := by
  rw [items, if_pos h]

/- Nor do several. -/
theorem items_gap
    {gap : List Token}
    (rest : List Token)
    (h : LineEnds gap) :
    items (gap ++ rest) = items rest := by
  induction gap with
  | nil => rfl
  | cons t gap ih =>
      rcases List.forall_mem_cons.mp h with ⟨hFirst, hMore⟩
      rw [List.cons_append, items_newline hFirst, ih hMore]

/- An optional line end says nothing. -/
theorem items_lineEnd
    {lineEnd : Option Token}
    (rest : List Token)
    (h : ∀ t ∈ lineEnd, t.kind = .newline) :
    items (lineEnd.toList ++ rest) = items rest := by
  apply items_gap
  intro t hT
  exact h t (Option.mem_toList.mp hT)

/- A rule is followed by the other items. -/
theorem items_rule
    {t : Token}
    {tokens rest : List Token}
    {node : Node}
    (hKind : t.kind = .keyword .rule)
    (hRead : ruleReading t.position tokens = .ok (node, rest)) :
    items (t :: tokens) = (items rest).map (node :: ·) := by
  rw [items, if_neg (by simp [hKind]), if_pos hKind]
  split
  · rename_i hRun
    rw [hRead] at hRun
    cases hRun
    rfl
  · rename_i hRun
    rw [hRead] at hRun
    cases hRun

/- So is a test. -/
theorem items_test
    {t : Token}
    {tokens rest : List Token}
    {node : Node}
    (hKind : t.kind = .keyword .test)
    (hRead : testReading t.position tokens = .ok (node, rest)) :
    items (t :: tokens) = (items rest).map (node :: ·) := by
  rw [items, if_neg (by simp [hKind]),
    if_neg (by simp [hKind]), if_pos hKind]
  split
  · rename_i hRun
    rw [hRead] at hRun
    cases hRun
    rfl
  · rename_i hRun
    rw [hRead] at hRun
    cases hRun

/- A rule or a test of the grammar is read. -/
theorem items_construct
    {construct : Construct}
    {behind : List Token}
    (hEnds : construct.EndsLines behind) :
    items (construct.tokens ++ behind) =
      (items behind).map (construct.node :: ·) := by
  cases construct with
  | rule r =>
      rcases ruleReading_complete r hEnds with
        ⟨lineEnd, rest, hRead, hRest, hLineEnd⟩
      have hSame : items rest = items behind := by
        rw [← items_lineEnd rest hLineEnd, ← hRest,
          items_lineEnd behind r.hLineEnd]
      rw [Construct.tokens, RuleSyntax.tokens,
        List.cons_append, items_rule r.hWord hRead, hSame]
      rfl
  | test t =>
      rcases testReading_complete t behind hEnds with
        ⟨lineEnd, rest, hRead, hRest, hLineEnd⟩
      have hSame : items rest = items behind := by
        rw [← items_lineEnd rest hLineEnd, ← hRest,
          items_lineEnd behind t.hLineEnd]
      rw [Construct.tokens, TestSyntax.tokens,
        List.cons_append, items_test t.hWord hRead, hSame]
      rfl

/- The items of the grammar are read. -/
theorem items_complete
    {list : List Item}
    {gap : List Token}
    (hGap : LineEnds gap)
    (hEnds : ItemsEnd list gap) :
    items (list.flatMap Item.tokens ++ gap) =
      .ok (list.map fun item => item.construct.node) := by
  induction list with
  | nil =>
      have hNothing := items_gap [] hGap
      rw [List.append_nil] at hNothing
      rw [List.flatMap_nil, List.nil_append, hNothing, items]
      rfl
  | cons item list ih =>
      rcases hEnds with ⟨hHere, hLater⟩
      rw [List.flatMap_cons, Item.tokens, List.append_assoc,
        List.append_assoc, items_gap _ item.hGap,
        items_construct hHere, ih hLater]
      rfl

/- The items of the grammar that some tokens are. -/
def HasItems
    (tokens : List Token)
    (nodes : List Node) : Prop :=
  ∃ (list : List Item) (gap : List Token),
    tokens = list.flatMap Item.tokens ++ gap ∧
      LineEnds gap ∧
      nodes = list.map (fun item => item.construct.node) ∧
      ItemsEnd list gap

/- A line end belongs to the first item or to the last gap. -/
theorem HasItems.newline
    {t : Token}
    {tokens : List Token}
    {nodes : List Node}
    (h : HasItems tokens nodes)
    (hLine : t.kind = .newline) :
    HasItems (t :: tokens) nodes := by
  rcases h with ⟨list, gap, rfl, hGap, rfl, hEnds⟩
  cases list with
  | nil =>
      have hWhole : LineEnds (t :: gap) :=
        List.forall_mem_cons.mpr ⟨hLine, hGap⟩
      exact ⟨[], t :: gap, rfl, hWhole, rfl, trivial⟩
  | cons item list =>
      have hItemGap : LineEnds (t :: item.gap) :=
        List.forall_mem_cons.mpr ⟨hLine, item.hGap⟩
      exact
        ⟨⟨t :: item.gap, item.construct, hItemGap⟩ :: list,
          gap, rfl, hGap, rfl, hEnds⟩

/- A rule or a test is an item before the others. -/
theorem HasItems.construct
    {construct : Construct}
    {rest : List Token}
    {nodes : List Node}
    (h : HasItems rest nodes)
    (hHere : construct.EndsLines rest) :
    HasItems (construct.tokens ++ rest)
      (construct.node :: nodes) := by
  rcases h with ⟨list, gap, rfl, hGap, rfl, hEnds⟩
  have hNoGap : LineEnds [] := by
    simp [LineEnds]
  refine
    ⟨⟨[], construct, hNoGap⟩ :: list, gap, ?_, hGap, rfl,
      hHere, hEnds⟩
  simp [Item.tokens]

/- The items that were read are those of the grammar. -/
theorem items_sound
    {tokens : List Token}
    {nodes : List Node}
    (hTokens : ∀ t ∈ tokens, t.kind ≠ .finish)
    (h : items tokens = .ok nodes) :
    HasItems tokens nodes := by
  fun_induction items tokens generalizing nodes with
  | case1 =>
      cases h
      exact ⟨[], [], rfl, by simp [LineEnds], rfl, trivial⟩
  | case2 t tokens hLine ih =>
      have hBehind : ∀ t ∈ tokens, t.kind ≠ .finish :=
        (List.forall_mem_cons.mp hTokens).2
      exact (ih hBehind h).newline hLine
  | case3 t tokens hLine hRule node rest hRun ih =>
      have hBehind : ∀ t ∈ tokens, t.kind ≠ .finish :=
        (List.forall_mem_cons.mp hTokens).2
      have hSuffix := leavesSuffix_ruleReading _ _ _ _ hRun
      have hRest : ∀ t ∈ rest, t.kind ≠ .finish :=
        fun u hU => hBehind u (hSuffix.subset hU)
      rcases ruleReading_sound hRule hBehind hRun with
        ⟨r, hSame, rfl, hHere⟩
      rcases map_eq_ok_iff.mp h with ⟨found, hFound, rfl⟩
      rw [hSame]
      exact
        @HasItems.construct (.rule r) rest found
          (ih hRest hFound) hHere
  | case4 t tokens hLine hRule refusal hRun => cases h
  | case5 t tokens hLine hRule hTest node rest hRun ih =>
      have hBehind : ∀ t ∈ tokens, t.kind ≠ .finish :=
        (List.forall_mem_cons.mp hTokens).2
      have hSuffix := leavesSuffix_testReading _ _ _ _ hRun
      have hRest : ∀ t ∈ rest, t.kind ≠ .finish :=
        fun u hU => hBehind u (hSuffix.subset hU)
      rcases testReading_sound hTest hBehind hRun with
        ⟨test, hSame, rfl, hHere⟩
      rcases map_eq_ok_iff.mp h with ⟨found, hFound, rfl⟩
      rw [hSame]
      exact
        @HasItems.construct (.test test) rest found
          (ih hRest hFound) hHere
  | case6 t tokens hLine hRule hTest refusal hRun => cases h
  | case7 t tokens hLine hRule hTest => cases h

end Node

------------------------------------------------------------
-- Programs
------------------------------------------------------------

namespace Reader

/- A program begins where the first of its tokens stands. -/
theorem position_current
    (tokens : List Token)
    (stop : Token) :
    (Reader.mk tokens stop).current.position =
      placeOf stop tokens := by
  cases tokens <;> rfl

/-
  Tokens with one end behind them are read as a program exactly
  if the grammar derives them and no span stops before the end
  of its line.
-/
theorem program_eq_ok_iff
    {body : List Token}
    {stop : Token}
    {tree : Node}
    (hBody : ∀ t ∈ body, t.kind ≠ .finish)
    (hStop : stop.kind = .finish) :
    (ofTokens (body ++ [stop])).program.1 = .ok tree ↔
      ∃ p : ProgramSyntax,
        p.tokens = body ++ [stop] ∧
          p.EndsLines ∧
          p.node = tree := by
  rw [ofTokens_concat hBody hStop, program, run_ok_iff]
  simp only [position_current, Node.programReading,
    map_eq_ok_iff]
  constructor
  · rintro ⟨rest, nodes, hItems, hTree⟩
    cases hTree
    rcases Node.items_sound hBody hItems with
      ⟨list, gap, rfl, hGap, rfl, hEnds⟩
    refine
      ⟨⟨list, gap, stop, hGap, hStop⟩, rfl, hEnds, ?_⟩
    simp [ProgramSyntax.node, ProgramSyntax.constructs,
      ProgramSyntax.body, Function.comp_def]
  · rintro ⟨p, hTokens, hEnds, rfl⟩
    rcases List.append_inj' hTokens rfl with ⟨rfl, hFinish⟩
    cases hFinish
    refine
      ⟨[], _, Node.items_complete p.hGap hEnds, ?_⟩
    simp [ProgramSyntax.node, ProgramSyntax.constructs,
      ProgramSyntax.body, Function.comp_def]

end Reader

end Rulebook
