import Rulebook.Proofs.Program.Foresight
import Rulebook.Proofs.Program.Lexed
import Rulebook.Proofs.Token.Lines

/-
  Two sources in one, the second behind a line end: the rules
  and tests of the first one come first, and those of the second
  one are as they are alone, only further down.

  A reading decides by kinds and keeps lexemes.  So tokens that
  are moved are read in the same way, and what is read of them,
  or refused, is moved with them.

  Key definitions include:
    * `Node.down`
    * `SourceError.down`
    * `Reading.Follows`

  Main results:
    * `Reading.Follows.bind`
    * `Node.items_down`
    * `Node.items_append_line`
    * `Source.program_append_line`
-/

namespace Rulebook

------------------------------------------------------------
-- Further Down
------------------------------------------------------------

/- The same refusal some lines further down. -/
def Refusal.down
    (n : Nat)
    (refusal : Refusal) : Refusal :=
  { expected := refusal.expected
    found := refusal.found.map (Token.down n)
    rest := refusal.rest.map (Token.down n) }

/- The same error some lines further down. -/
def ParseError.down
    (n : Nat)
    (e : ParseError) : ParseError :=
  { e with found := e.found.down n }

/-
  The same error of a source some lines further down.  An error
  of an expression has the place where its text came from.
-/
def SourceError.down (n : Nat) : SourceError → SourceError
  | .lexical e => .lexical (e.down n)
  | .structural e => .structural (e.down n)
  | .evaluation e =>
      .evaluation
        { e with origin := e.origin.map (Position.down n) }

namespace Node

mutual

/- The same node, with all below it, some lines further down. -/
def down (n : Nat) : Node → Node
  | ⟨kind, content, position, children⟩ =>
      ⟨kind, content, position.down n, downs n children⟩

/- The same nodes some lines further down. -/
def downs (n : Nat) : List Node → List Node
  | [] => []
  | node :: nodes => down n node :: downs n nodes

end

theorem downs_eq_map
    (n : Nat)
    (nodes : List Node) :
    downs n nodes = nodes.map (down n) := by
  induction nodes with
  | nil => rfl
  | cons node nodes ih => rw [downs, ih, List.map_cons]

/- Only the places change, and those by their lines. -/
theorem down_eq
    (n : Nat)
    (node : Node) :
    node.down n =
      { node with
        position := node.position.down n
        children := node.children.map (down n) } := by
  rw [← downs_eq_map]
  cases node
  rfl

end Node

/- Places do not matter for the spellings. -/
theorem spellingOfTokens_down
    (n : Nat)
    (tokens : List Token) :
    spellingOfTokens (tokens.map (Token.down n)) =
      spellingOfTokens tokens := by
  rw [spellingOfTokens, List.map_map]
  rfl

------------------------------------------------------------
-- Readings Of Moved Tokens
------------------------------------------------------------

namespace Reading

variable {α β : Type}
variable {n : Nat}

/-
  One reading follows another if it reads tokens further down
  as the other one reads them where they are.  Its values are
  those of the other one, changed.
-/
def Follows
    (n : Nat)
    (change : α → α)
    (moved reading : Reading α) : Prop :=
  ∀ tokens,
    moved (tokens.map (Token.down n)) =
      ((reading tokens).mapError (Refusal.down n)).map
        fun r => (change r.1, r.2.map (Token.down n))

/- Readings in a row follow readings in a row. -/
theorem Follows.bind
    {change : α → α}
    {change' : β → β}
    {moved reading : Reading α}
    {moved' reading' : α → Reading β}
    (hFirst : Follows n change moved reading)
    (hNext :
      ∀ value,
        Follows n change' (moved' (change value))
          (reading' value)) :
    Follows n change' (moved >>= moved')
      (reading >>= reading') := by
  intro tokens
  have hMoved := hFirst tokens
  cases hRun : reading tokens with
  | error refusal =>
      rw [hRun] at hMoved
      have hHere : moved (tokens.map (Token.down n)) =
          .error (refusal.down n) := hMoved
      simp only [Bind.bind, StateT.bind, hRun, hHere,
        Except.bind]
      rfl
  | ok result =>
      rw [hRun] at hMoved
      have hHere : moved (tokens.map (Token.down n)) =
          .ok (change result.1,
            result.2.map (Token.down n)) := hMoved
      simp only [Bind.bind, StateT.bind, hRun, hHere,
        Except.bind]
      exact hNext result.1 result.2

theorem follows_pure
    {change : α → α}
    {value value' : α}
    (h : value' = change value) :
    Follows n change (pure value') (pure value) := by
  intro tokens
  rw [h]
  rfl

theorem follows_expect
    (kind : TokenKind)
    (expected : Expectation) :
    Follows n (Token.down n) (expect kind expected)
      (expect kind expected) := by
  intro tokens
  cases tokens with
  | nil => rfl
  | cons t tokens =>
      by_cases hKind : t.kind = kind
      · simp only [List.map_cons, expect, if_pos hKind]
        exact if_pos hKind
      · simp only [List.map_cons, expect, if_neg hKind]
        exact if_neg hKind

theorem follows_skip (kind : TokenKind) :
    Follows n id (skip kind) (skip kind) := by
  intro tokens
  cases tokens with
  | nil => rfl
  | cons t tokens =>
      by_cases hKind : t.kind = kind
      · simp only [List.map_cons, skip, if_pos hKind]
        exact if_pos hKind
      · simp only [List.map_cons, skip, if_neg hKind]
        exact if_neg hKind

theorem follows_line (stops : TokenKind → Bool) :
    Follows n (List.map (Token.down n)) (line stops)
      (line stops) := by
  intro tokens
  simp only [line, List.takeWhile_map, List.dropWhile_map]
  rfl

theorem follows_moreNames :
    Follows n id moreNames moreNames := by
  intro tokens
  fun_induction moreNames tokens with
  | case1 => rfl
  | case2 d hDot => exact if_pos hDot
  | case3 d hDot => exact if_neg hDot
  | case4 d t tokens hDot hName names rest hMore ih =>
      rw [hMore] at ih
      have hDot' : (d.down n).kind = .symbol .dot := hDot
      have hName' : (t.down n).kind = .identifier := hName
      rw [List.map_cons, List.map_cons, moreNames,
        if_pos hDot', if_pos hName', ih]
      rfl
  | case5 d t tokens hDot hName refusal hMore ih =>
      rw [hMore] at ih
      have hDot' : (d.down n).kind = .symbol .dot := hDot
      have hName' : (t.down n).kind = .identifier := hName
      rw [List.map_cons, List.map_cons, moreNames,
        if_pos hDot', if_pos hName', ih]
      rfl
  | case6 d t tokens hDot hName =>
      exact (if_pos hDot).trans (if_neg hName)
  | case7 d t tokens hDot => exact if_neg hDot

end Reading

------------------------------------------------------------
-- Rules And Tests Further Down
------------------------------------------------------------

namespace Node

open Reading
open Grammar

variable {n : Nat}

theorem ofTokens_down
    (kind : NodeKind)
    (tokens : List Token)
    (otherwise : Position) :
    ofTokens kind (tokens.map (Token.down n))
        (otherwise.down n) =
      (ofTokens kind tokens otherwise).down n := by
  rw [ofTokens, spellingOfTokens_down]
  cases tokens <;> rfl

theorem follows_targetReading :
    Follows n (down n) targetReading targetReading := by
  refine (follows_expect _ _).bind fun first => ?_
  refine follows_moreNames.bind fun names => ?_
  exact follows_pure rfl

theorem follows_ruleReading (start : Position) :
    Follows n (down n) (ruleReading (start.down n))
      (ruleReading start) := by
  refine (follows_expect _ _).bind fun name => ?_
  refine (follows_expect _ _).bind fun whenWord => ?_
  refine (follows_line _).bind fun condition => ?_
  refine (follows_expect _ _).bind fun thenWord => ?_
  refine follows_targetReading.bind fun target => ?_
  refine (follows_expect _ _).bind fun sign => ?_
  refine (follows_line _).bind fun value => ?_
  refine (follows_skip _).bind fun _ => ?_
  apply follows_pure
  simp only [Token.down, ofTokens_down, down, downs]

theorem lineOf_down (tokens : List Token) :
    lineOf (tokens.map (Token.down n)) =
      (lineOf tokens).map (Token.down n) := by
  rw [lineOf, List.takeWhile_map]
  rfl

theorem afterLine_down (tokens : List Token) :
    afterLine (tokens.map (Token.down n)) =
      (afterLine tokens).map (Token.down n) := by
  rw [afterLine, List.dropWhile_map, ← List.map_drop]
  rfl

theorem follows_clauses :
    Follows n (downs n) clauses clauses := by
  intro tokens
  fun_induction clauses tokens with
  | case1 =>
      rw [List.map_nil, clauses]
      rfl
  | case2 t tokens kind hKind node nodes rest hRun ih =>
      rw [hRun] at ih
      have hWord : Introduces (t.down n).kind kind :=
        introduces_iff.mpr hKind
      rw [List.map_cons, clauses_word hWord, afterLine_down,
        ih, lineOf_down, expressionNode, spellingOfTokens_down]
      rfl
  | case3 t tokens kind hKind refusal hRun ih =>
      rw [hRun] at ih
      have hWord : Introduces (t.down n).kind kind :=
        introduces_iff.mpr hKind
      rw [List.map_cons, clauses_word hWord, afterLine_down,
        ih]
      rfl
  | case4 t tokens hKind hClosing =>
      have hClosing' :
          (t.down n).kind = .symbol .rightBrace :=
        hClosing
      rw [List.map_cons, clauses_closing hClosing']
      rfl
  | case5 t tokens hKind hClosing hLine ih =>
      have hLine' : (t.down n).kind = .newline := hLine
      rw [List.map_cons, clauses_newline hLine', ih]
  | case6 t tokens hKind hClosing hLine =>
      have hKind' : clauseKind? (t.down n).kind = none := hKind
      rw [List.map_cons, clauses_other hKind' hClosing hLine]
      rfl

theorem follows_testReading (start : Position) :
    Follows n (down n) (testReading (start.down n))
      (testReading start) := by
  refine (follows_expect _ _).bind fun name => ?_
  refine (follows_expect _ _).bind fun opening => ?_
  refine follows_clauses.bind fun children => ?_
  refine (follows_skip _).bind fun _ => ?_
  exact follows_pure rfl

/- What a word begins is read further down as it is here. -/
theorem Begins.items_down
    {t : Token}
    {tokens : List Token}
    {moved reading : Reading Node}
    (hMoved : Begins (t.down n) moved)
    (hBegins : Begins t reading)
    (hFollows : Follows n (down n) moved reading)
    (hRest :
      ∀ node rest,
        reading tokens = .ok (node, rest) →
          items (rest.map (Token.down n)) =
            ((items rest).mapError (Refusal.down n)).map
              (List.map (down n))) :
    items ((t :: tokens).map (Token.down n)) =
      ((items (t :: tokens)).mapError (Refusal.down n)).map
        (List.map (down n)) := by
  rw [List.map_cons, hMoved, hBegins, hFollows]
  cases hRun : reading tokens with
  | error refusal => rfl
  | ok result =>
      have hMore := hRest result.1 result.2 hRun
      apply
        (congrArg (Except.map (down n result.1 :: ·))
          hMore).trans
      change
        _ =
          (((items result.2).map (result.1 :: ·)).mapError
              (Refusal.down n)).map (List.map (down n))
      cases items result.2 <;> rfl

/- Rules and tests further down are the same, further down. -/
theorem items_down
    (n : Nat)
    (tokens : List Token) :
    items (tokens.map (Token.down n)) =
      ((items tokens).mapError (Refusal.down n)).map
        (List.map (down n)) := by
  induction tokens using items.induct with
  | case1 =>
      rw [List.map_nil, items]
      rfl
  | case2 t tokens hLine ih =>
      have hMoved : (t.down n).kind = .newline := hLine
      rw [List.map_cons, items_newline hMoved,
        items_newline hLine, ih]
  | case3 t tokens hLine hRule node rest hRun ih =>
      have hMoved : (t.down n).kind = .keyword .rule := hRule
      apply
        (begins_rule hMoved).items_down (begins_rule hRule)
          (follows_ruleReading _)
      intro found left hFound
      rw [hRun] at hFound
      cases hFound
      exact ih
  | case4 t tokens hLine hRule refusal hRun =>
      have hMoved : (t.down n).kind = .keyword .rule := hRule
      apply
        (begins_rule hMoved).items_down (begins_rule hRule)
          (follows_ruleReading _)
      intro found left hFound
      rw [hRun] at hFound
      cases hFound
  | case5 t tokens hLine hRule hTest node rest hRun ih =>
      have hMoved : (t.down n).kind = .keyword .test := hTest
      apply
        (begins_test hMoved).items_down (begins_test hTest)
          (follows_testReading _)
      intro found left hFound
      rw [hRun] at hFound
      cases hFound
      exact ih
  | case6 t tokens hLine hRule hTest refusal hRun =>
      have hMoved : (t.down n).kind = .keyword .test := hTest
      apply
        (begins_test hMoved).items_down (begins_test hTest)
          (follows_testReading _)
      intro found left hFound
      rw [hRun] at hFound
      cases hFound
  | case7 t tokens hLine hRule hTest =>
      have hLine' : (t.down n).kind ≠ .newline := hLine
      have hRule' : (t.down n).kind ≠ .keyword .rule := hRule
      have hTest' : (t.down n).kind ≠ .keyword .test := hTest
      rw [List.map_cons, items, if_neg hLine', if_neg hRule',
        if_neg hTest', items, if_neg hLine, if_neg hRule,
        if_neg hTest]
      rfl

------------------------------------------------------------
-- One Behind The Other
------------------------------------------------------------

/- A line ends behind it, if it does before a line end. -/
theorem endsLine_append_line
    {lineEnd : Option Token}
    {behind : List Token}
    {t : Token}
    (h : EndsLine lineEnd behind)
    (hLine : t.kind = .newline)
    (more : List Token) :
    EndsLine lineEnd (behind ++ t :: more) := by
  intro hNone u hU
  cases behind with
  | nil =>
      cases hU
      exact hLine
  | cons v behind => exact h hNone u hU

theorem endsLines_append_line
    {construct : Construct}
    {behind : List Token}
    {t : Token}
    (h : construct.EndsLines behind)
    (hLine : t.kind = .newline)
    (more : List Token) :
    construct.EndsLines (behind ++ t :: more) := by
  cases construct with
  | rule r => exact endsLine_append_line h hLine more
  | test test => exact h

/-
  Behind rules and tests and a line end come those of other
  tokens, as they are alone.
-/
theorem items_append_line
    {tokens : List Token}
    {nodes : List Node}
    {t : Token}
    (h : HasItems tokens nodes)
    (hLine : t.kind = .newline)
    (more : List Token) :
    items (tokens ++ t :: more) =
      (items more).map (nodes ++ ·) := by
  rcases h with ⟨list, gap, rfl, hGap, rfl, hEnds⟩
  induction list with
  | nil =>
      rw [List.flatMap_nil, List.nil_append,
        items_gap _ hGap, items_newline hLine]
      cases items more <;> rfl
  | cons item list ih =>
      rcases hEnds with ⟨hHere, hLater⟩
      have hBehind := endsLines_append_line hHere hLine more
      have hTokens :
          (item :: list).flatMap Item.tokens ++ gap ++
              t :: more =
            item.gap ++
              (item.construct.tokens ++
                (list.flatMap Item.tokens ++ gap ++
                  t :: more)) := by
        simp [Item.tokens]
      rw [hTokens, items_gap _ item.hGap,
        items_construct hBehind, ih hLater]
      cases items more <;> rfl

end Node

------------------------------------------------------------
-- Sources
------------------------------------------------------------

/- What a reader gives is a program of the items ahead. -/
theorem Reader.program_eq_items
    (tokens : List Token)
    (stop : Token) :
    (Reader.mk tokens stop).program.1 =
      ((Node.items tokens).mapError fun refusal =>
          ⟨refusal.expected, refusal.found.getD stop⟩).map
        fun children =>
          { kind := .program
            content := ""
            position := Grammar.placeOf stop tokens
            children } := by
  unfold program run
  rw [position_current]
  simp only [Node.programReading]
  cases Node.items tokens <;> rfl

namespace Source

theorem program_of_tokens
    {source : String}
    {body : List Token}
    {stop : Token}
    (h : tokenize source = .ok (body ++ [stop]))
    (hBody : ∀ t ∈ body, t.kind ≠ .finish)
    (hStop : stop.kind = .finish) :
    program source =
      (Reader.mk body stop).program.1.mapError
        .structural := by
  rw [program_of_tokenize h,
    Reader.ofTokens_concat hBody hStop]

/- An accepted source has the rules and tests of its tokens. -/
theorem exists_items_of_program
    {source : String}
    {tree : Node}
    (h : program source = .ok tree) :
    ∃ body stop,
      tokenize source = .ok (body ++ [stop]) ∧
        stop.kind = .finish ∧
        (∀ t ∈ body, t.kind ≠ .finish) ∧
        Node.HasItems body tree.children ∧
        tree =
          { kind := .program
            content := ""
            position := Grammar.placeOf stop body
            children := tree.children } := by
  cases hText : tokenize source with
  | error e =>
      rw [program_of_lexical hText] at h
      cases h
  | ok tokens =>
      rcases lexemes_of_tokenize hText with
        ⟨body, stop, rfl, hStop, hLexemes⟩
      have hBody : ∀ t ∈ body, t.kind ≠ .finish :=
        fun t hT => (hLexemes t hT).ne_finish
      rw [program_of_tokens hText hBody hStop,
        mapError_eq_ok_iff, Reader.program_eq_items,
        map_eq_ok_iff] at h
      rcases h with ⟨nodes, hNodes, rfl⟩
      exact
        ⟨body, stop, rfl, hStop, hBody,
          Node.items_sound hBody (mapError_eq_ok_iff.mp hNodes),
          rfl⟩

/-
  The program of tokens, a line end and other tokens further
  down, in terms of the items of the other tokens where they
  are.
-/
theorem program_of_tokens_append_line
    {source : String}
    {body more : List Token}
    {stop line : Token}
    {nodes : List Node}
    {n : Nat}
    (h :
      tokenize source =
        .ok
          (body ++ line :: (more ++ [stop]).map (Token.down n)))
    (hBody : ∀ t ∈ body, t.kind ≠ .finish)
    (hMore : ∀ t ∈ more, t.kind ≠ .finish)
    (hLine : line.kind = .newline)
    (hStop : stop.kind = .finish)
    (hNodes : Node.HasItems body nodes) :
    program source =
      ((Node.items more).mapError fun refusal =>
          .structural
            (ParseError.down n
              ⟨refusal.expected,
                refusal.found.getD stop⟩)).map
        fun others =>
          { kind := .program
            content := ""
            position := Grammar.placeOf line body
            children := nodes ++ others.map (Node.down n) } := by
  have hTokens :
      body ++ line :: (more ++ [stop]).map (Token.down n) =
        (body ++ line :: more.map (Token.down n)) ++
          [stop.down n] := by
    simp
  have hWhole :
      ∀ t ∈ body ++ line :: more.map (Token.down n),
        t.kind ≠ .finish := by
    intro t hT
    rcases List.mem_append.mp hT with hT | hT
    · exact hBody t hT
    rcases List.mem_cons.mp hT with rfl | hT
    · rw [hLine]
      simp
    · rcases List.mem_map.mp hT with ⟨u, hU, rfl⟩
      exact hMore u hU
  have hPlace :
      Grammar.placeOf (stop.down n)
          (body ++ line :: more.map (Token.down n)) =
        Grammar.placeOf line body := by
    cases body <;> rfl
  rw [hTokens] at h
  rw [program_of_tokens h hWhole hStop,
    Reader.program_eq_items, hPlace,
    Node.items_append_line hNodes hLine, Node.items_down]
  cases Node.items more with
  | ok others => rfl
  | error refusal =>
      rcases refusal with ⟨expected, found, rest⟩
      cases found <;> rfl

/-
  Behind an accepted source and a line end, a source has the
  rules and tests, or the error, that it has alone, below the
  lines of the first one.  The tree begins where that of the
  first one does, with the rules and tests of the first one.
-/
theorem program_append_line
    {first : String}
    {tree : Node}
    (h : program first = .ok tree)
    (second : String) :
    (∀ other, program second = .ok other →
      program (first ++ "\n" ++ second) =
        .ok
          { tree with
            children :=
              tree.children ++
                other.children.map
                  (Node.down (lineCount first)) }) ∧
    (∀ e, program second = .error e →
      program (first ++ "\n" ++ second) =
        .error (e.down (lineCount first))) := by
  rcases exists_items_of_program h with
    ⟨body, stop, hText, hStop, hBody, hItems, hTree⟩
  rcases tokenize_append_line hText second with
    ⟨body', stop', hTokens, _, _, hMore, hError⟩
  rcases List.append_inj' hTokens rfl with ⟨rfl, hSame⟩
  cases hSame
  cases hSecond : tokenize second with
  | error e =>
      rw [program_of_lexical hSecond,
        program_of_lexical (hError e hSecond)]
      refine ⟨?_, ?_⟩
      · intro other hOther
        cases hOther
      · intro e' hE
        cases hE
        rfl
  | ok tokens =>
      rcases lexemes_of_tokenize hSecond with
        ⟨more, stop', rfl, hStop', hLexemes⟩
      have hMoreBody : ∀ t ∈ more, t.kind ≠ .finish :=
        fun t hT => (hLexemes t hT).ne_finish
      rw [program_of_tokens hSecond hMoreBody hStop',
        Reader.program_eq_items,
        program_of_tokens_append_line (hMore _ hSecond) hBody
          hMoreBody rfl hStop' hItems]
      have hPlace :
          Grammar.placeOf
              ⟨.newline, "\n", stop.position⟩ body =
            Grammar.placeOf stop body := by
        cases body <;> rfl
      rw [hPlace, hTree]
      cases Node.items more with
      | ok nodes =>
          refine ⟨?_, ?_⟩
          · intro other hOther
            cases hOther
            rfl
          · intro e hE
            cases hE
      | error refusal =>
          refine ⟨?_, ?_⟩
          · intro other hOther
            cases hOther
          · intro e hE
            cases hE
            rfl

/- A rule without a value, and a comment up to its end. -/
def emptyValue : String :=
  "rule \"r\" when a then b = # none"

/- A test that begins on the second line. -/
def lateTest : String :=
  "\ntest \"t\" \x7b\n  given a = 1\n\x7d"

/-
  A value stays empty with another line behind it, and the test
  of the other source is on the third line.
-/
theorem program_append_line_empty_value :
    ∃ tree other whole,
      program emptyValue = .ok tree ∧
        program lateTest = .ok other ∧
        program (emptyValue ++ "\n" ++ lateTest) =
          .ok whole ∧
        whole.children =
          tree.children ++ other.children.map (Node.down 1) ∧
        other.children.map (·.position) = [⟨2, 1⟩] ∧
        whole.children.map (·.position) =
          [⟨1, 1⟩, ⟨3, 1⟩] := by
  have hFirst :
      (program emptyValue).map
          (·.children.map (·.position)) =
        .ok [⟨1, 1⟩] := by
    decide +kernel
  have hSecond :
      (program lateTest).map (·.children.map (·.position)) =
        .ok [⟨2, 1⟩] := by
    decide +kernel
  rcases map_eq_ok_iff.mp hFirst with ⟨tree, hTree, hRule⟩
  rcases map_eq_ok_iff.mp hSecond with ⟨other, hOther, hTest⟩
  have hCount : lineCount emptyValue = 1 := by
    decide
  have hWhole :=
    (program_append_line hTree lateTest).1 other hOther
  rw [hCount] at hWhole
  refine
    ⟨tree, other, _, hTree, hOther, hWhole, rfl, hTest, ?_⟩
  have hMoved :
      (other.children.map (Node.down 1)).map (·.position) =
        (other.children.map (·.position)).map
          (Position.down 1) := by
    simp [Node.down_eq]
  rw [List.map_append, hRule, hMoved, hTest]
  rfl

end Source

end Rulebook
