import Rulebook.Proofs.Foresight
import Rulebook.Proofs.Program.Correctness
import Rulebook.Proofs.Token.Split

/-
  The errors of programs are about the first token that no
  program can have where it stands.

  Key definitions include:
    * `Reader.HoldsProgram`

  Main results:
    * `Node.foresees_ruleReading`
    * `Node.foresees_clauses`
    * `Node.foresees_testReading`
    * `Node.timely_items`
    * `Reader.error_of_program_first_impossible`
-/

namespace Rulebook

namespace Node

open Reading
open Grammar

------------------------------------------------------------
-- Rules
------------------------------------------------------------

theorem foresees_targetReading
    {ahead : TokenKind → Prop}
    (hAhead : ahead .identifier) :
    Foresees ahead (· ≠ .symbol .dot) targetReading := by
  refine (foresees_expect hAhead (by simp)).bind fun _ => ?_
  refine foresees_moreNames.bind fun _ => ?_
  exact foresees_pure _

/-
  The condition of a rule may end at the word behind it, and its
  target may have a sign behind it.
-/
theorem foresees_ruleReading (start : Position) :
    Foresees (fun _ => True) (fun _ => False)
      (ruleReading start) := by
  refine (foresees_expect trivial (by simp)).bind fun _ => ?_
  refine (foresees_expect trivial (by simp)).bind fun _ => ?_
  refine (foresees_line _).bind fun _ => ?_
  refine
    (foresees_expect (.inr (by simp)) (by simp)).bind
      fun _ => ?_
  refine (foresees_targetReading trivial).bind fun _ => ?_
  refine
    (foresees_expect (by simp) (by simp)).bind fun _ => ?_
  refine (foresees_line _).bind fun _ => ?_
  refine (foresees_skip _).bind fun _ => ?_
  exact foresees_pure _

------------------------------------------------------------
-- Tests
------------------------------------------------------------

/- A line holds no line ends. -/
theorem newline_not_mem_lineOf (tokens : List Token) :
    ∀ t ∈ lineOf tokens, t.kind ≠ .newline := by
  intro t hT
  simpa using of_mem_takeWhile t hT

/- A blank line changes no clauses. -/
theorem clauses_blank
    {t : Token}
    (h : t.kind = .newline)
    (tokens : List Token) :
    clauses ([t] ++ tokens) =
      (clauses tokens).map fun r => (id r.1, r.2) := by
  rw [List.singleton_append, clauses_newline h]
  cases clauses tokens <;> rfl

/- A clause with its line end comes before the others. -/
theorem clauses_span
    {kind : NodeKind}
    {t lineEnd : Token}
    {span : List Token}
    (hWord : Introduces t.kind kind)
    (hSpan : ∀ u ∈ span, u.kind ≠ .newline)
    (hLine : lineEnd.kind = .newline)
    (tokens : List Token) :
    clauses (t :: span ++ [lineEnd] ++ tokens) =
      (clauses tokens).map fun r =>
        (expressionNode kind span t.position :: r.1, r.2) := by
  have hInside :
      ∀ u ∈ span, (u.kind != .newline) = true := by
    simpa using hSpan
  have hOutside :
      ∀ u ∈ (lineEnd :: tokens).head?,
        (u.kind != .newline) = false := by
    intro u hU
    cases hU
    simp [hLine]
  have hLineOf : lineOf (span ++ lineEnd :: tokens) = span :=
    takeWhile_run hInside hOutside
  have hAfter :
      afterLine (span ++ lineEnd :: tokens) = tokens :=
    congrArg (List.drop 1) (dropWhile_run hInside hOutside)
  rw [List.append_assoc, List.singleton_append,
    List.cons_append, clauses_word hWord, hLineOf, hAfter]

/- The clauses end at their brace, whatever comes behind it. -/
theorem gives_clauses
    {tokens rest : List Token}
    {nodes : List Node}
    (h : clauses tokens = .ok (nodes, rest)) :
    ∃ taken,
      tokens = taken ++ rest ∧
        ∀ rest',
          clauses (taken ++ rest') = .ok (nodes, rest') := by
  fun_induction clauses tokens generalizing nodes with
  | case1 => cases h
  | case2 t tokens kind hKind node found left hRun =>
      rename_i ih
      cases h
      rcases exists_lineEnd tokens with
        ⟨lineEnd, hSplit, hLine, hNone⟩
      rcases ih hRun with ⟨taken, hTaken, hAgain⟩
      cases lineEnd with
      | none =>
          rw [hNone rfl, clauses] at hRun
          cases hRun
      | some u =>
          refine
            ⟨t :: lineOf tokens ++ [u] ++ taken, ?_, ?_⟩
          · rw [hTaken] at hSplit
            simpa using hSplit
          · intro rest'
            rw [List.append_assoc,
              clauses_span (introduces_iff.mpr hKind)
                (newline_not_mem_lineOf tokens) (hLine u rfl),
              hAgain]
            rfl
  | case3 t tokens kind hKind node refusal hRun => cases h
  | case4 t tokens hKind hClosing =>
      cases h
      exact ⟨[t], rfl, fun _ => clauses_closing hClosing⟩
  | case5 t tokens hKind hClosing hLine ih =>
      rcases ih h with ⟨taken, rfl, hAgain⟩
      refine ⟨t :: taken, rfl, ?_⟩
      intro rest'
      rw [List.cons_append, clauses_newline hLine]
      exact hAgain rest'
  | case6 t tokens hKind hClosing hLine => cases h

/- A line end, to which every line can go on. -/
def lineBreak : Token :=
  ⟨.newline, "\n", .start⟩

/- A closing brace, to which all clauses can go on. -/
def closingBrace : Token :=
  ⟨.symbol .rightBrace, "\x7d", .start⟩

theorem clauses_closingBrace :
    clauses [closingBrace] = .ok ([], []) :=
  clauses_closing rfl

/- Without a token the closing brace is missed. -/
theorem halts_clauses_nil :
    Halts (fun _ => True) (fun _ => True) clauses []
      (.ahead .closingBrace []) where
  found := rfl
  again rest hRest := by
    rw [List.head?_eq_none_iff.mp hRest]
    exact ⟨_, by rw [List.append_nil, clauses]⟩
  possible :=
    ⟨[closingBrace], _, by simp [Unended, closingBrace],
      fun _ => leads_any, clauses_closingBrace⟩

/- So it is behind the word of a clause and its last line. -/
theorem halts_clauses_word
    {kind : NodeKind}
    {t : Token}
    {span : List Token}
    (hWord : Introduces t.kind kind)
    (hSpan : ∀ u ∈ span, u.kind ≠ .newline) :
    Halts (fun _ => True) (fun _ => True) clauses (t :: span)
      (.ahead .closingBrace []) where
  found := rfl
  again rest hRest := by
    have hInside :
        ∀ u ∈ span, (u.kind != .newline) = true := by
      simpa using hSpan
    have hAfter : afterLine (span ++ []) = [] :=
      congrArg (List.drop 1) (dropWhile_run hInside (by simp))
    rw [List.append_nil] at hAfter
    rw [List.head?_eq_none_iff.mp hRest, List.append_nil,
      clauses_word hWord, hAfter, clauses]
    exact ⟨_, rfl⟩
  possible := by
    refine
      ⟨[lineBreak, closingBrace],
        [expressionNode kind span t.position],
        by simp [Unended, lineBreak, closingBrace],
        fun _ => leads_any, ?_⟩
    rw [List.append_cons, clauses_span hWord hSpan rfl,
      clauses_closingBrace]
    rfl

/- No line between the braces begins with another token. -/
theorem clauses_other
    {t : Token}
    {tokens : List Token}
    (hKind : clauseKind? t.kind = none)
    (hClosing : t.kind ≠ .symbol .rightBrace)
    (hLine : t.kind ≠ .newline) :
    clauses (t :: tokens) =
      .error (.ahead .clauseOrClosingBrace (t :: tokens)) := by
  rw [clauses, hKind]
  simp only [if_neg hClosing, if_neg hLine]

/- The clauses are refused where no line can begin. -/
theorem halts_clauses
    {tokens : List Token}
    {refusal : Refusal}
    (h : clauses tokens = .error refusal) :
    ∃ taken,
      tokens = taken ++ refusal.rest ∧
        Halts (fun _ => True) (fun _ => True) clauses taken
          refusal := by
  fun_induction clauses tokens with
  | case1 =>
      cases h
      exact ⟨[], rfl, halts_clauses_nil⟩
  | case2 t tokens kind hKind node found left hRun => cases h
  | case3 t tokens kind hKind found hRun ih =>
      cases h
      rcases exists_lineEnd tokens with
        ⟨lineEnd, hSplit, hLine, hNone⟩
      have hWord := introduces_iff.mpr hKind
      have hSpan := newline_not_mem_lineOf tokens
      cases lineEnd with
      | none =>
          rw [hNone rfl, Option.toList_none, List.append_nil,
            List.append_nil] at hSplit
          rw [← hSplit] at hSpan
          have hNothing : clauses [] = .error refusal := by
            rw [← hNone rfl]
            exact hRun
          rw [clauses] at hNothing
          cases hNothing
          exact
            ⟨t :: tokens, (List.append_nil _).symm,
              halts_clauses_word hWord hSpan⟩
      | some u =>
          rcases ih hRun with ⟨taken, hTaken, hHalts⟩
          refine
            ⟨t :: lineOf tokens ++ [u] ++ taken, ?_,
              hHalts.prepend
                (clauses_span hWord hSpan (hLine u rfl))⟩
          rw [hTaken] at hSplit
          simpa using hSplit
  | case4 t tokens hKind hClosing => cases h
  | case5 t tokens hKind hClosing hLine ih =>
      rcases ih h with ⟨taken, rfl, hHalts⟩
      exact
        ⟨t :: taken, rfl, hHalts.prepend (clauses_blank hLine)⟩
  | case6 t tokens hKind hClosing hLine =>
      cases h
      refine ⟨[], rfl, rfl, ?_, ?_⟩
      · intro rest hRest
        cases rest with
        | nil => cases hRest
        | cons u rest =>
            cases hRest
            exact ⟨_, clauses_other hKind hClosing hLine⟩
      · exact halts_clauses_nil.possible

/- Behind the closing brace anything may come. -/
theorem foresees_clauses :
    Foresees (fun _ => True) (fun _ => True) clauses where
  starts :=
    ⟨[closingBrace], _, by simp [Unended, closingBrace],
      leads_any, clauses_closingBrace⟩
  gives tokens nodes rest h := by
    rcases gives_clauses h with ⟨taken, hTokens, hAgain⟩
    exact
      ⟨taken, hTokens, fun rest' _ => hAgain rest',
        fun _ => leads_any⟩
  halts _ _ := halts_clauses

theorem foresees_testReading (start : Position) :
    Foresees (fun _ => True) (fun _ => False)
      (testReading start) := by
  refine (foresees_expect trivial (by simp)).bind fun _ => ?_
  refine (foresees_expect trivial (by simp)).bind fun _ => ?_
  refine foresees_clauses.bind fun _ => ?_
  refine (foresees_skip _).bind fun _ => ?_
  exact foresees_pure _

------------------------------------------------------------
-- Items
------------------------------------------------------------

/- The tokens are rules and tests. -/
def AreItems (tokens : List Token) : Prop :=
  ∃ nodes, items tokens = .ok nodes

/- No tokens are no rules and no tests. -/
theorem areItems_nil : AreItems [] :=
  ⟨[], by rw [items]⟩

/- A word begins what one reading reads, before other items. -/
def Begins
    (t : Token)
    (reading : Reading Node) : Prop :=
  ∀ tokens,
    items (t :: tokens) =
      (reading tokens).bind fun r =>
        (items r.2).map (r.1 :: ·)

theorem begins_rule
    {t : Token}
    (h : t.kind = .keyword .rule) :
    Begins t (ruleReading t.position) := by
  intro tokens
  rw [items, if_neg (by simp [h]), if_pos h]
  split
  · rename_i hRun
    rw [hRun]
    rfl
  · rename_i hRun
    rw [hRun]
    rfl

theorem begins_test
    {t : Token}
    (h : t.kind = .keyword .test) :
    Begins t (testReading t.position) := by
  intro tokens
  rw [items, if_neg (by simp [h]), if_neg (by simp [h]),
    if_pos h]
  split
  · rename_i hRun
    rw [hRun]
    rfl
  · rename_i hRun
    rw [hRun]
    rfl

section

variable {t : Token}
variable {tokens rest : List Token}
variable {reading : Reading Node}
variable {node : Node}
variable {refusal : Refusal}

/- What is read with nothing left makes items by itself. -/
theorem Begins.areItems
    (h : Begins t reading)
    (hRead : reading tokens = .ok (node, rest))
    (hRest : AreItems rest) : AreItems (t :: tokens) := by
  rcases hRest with ⟨nodes, hNodes⟩
  refine ⟨node :: nodes, ?_⟩
  rw [h, hRead, Except.bind, hNodes]
  rfl

/- Items are refused where the reading of a word is. -/
theorem Begins.timely_of_refused
    (h : Begins t reading)
    (hReading :
      Foresees (fun _ => True) (fun _ => False) reading)
    (hRead : reading tokens = .error refusal) :
    ∃ taken,
      t :: tokens = taken ++ refusal.rest ∧
        Timely AreItems taken refusal := by
  rcases hReading.halts _ _ hRead with ⟨taken, rfl, hHalts⟩
  refine ⟨t :: taken, rfl, hHalts.found, ?_, ?_⟩
  · rcases hHalts.possible with
      ⟨more, node, hMore, _, hPossible⟩
    exact ⟨more, hMore, h.areItems hPossible areItems_nil⟩
  · rintro rest hRest ⟨nodes, hNodes⟩
    rcases hHalts.again rest hRest with ⟨other, hOther⟩
    rw [List.cons_append, h, hOther] at hNodes
    cases hNodes

/- They are refused where they are behind what was read. -/
theorem Begins.timely_behind
    {taken : List Token}
    (h : Begins t reading)
    (hReading :
      Foresees (fun _ => True) (fun _ => False) reading)
    (hRead :
      reading tokens = .ok (node, taken ++ refusal.rest))
    (hTimely : Timely AreItems taken refusal) :
    ∃ front,
      t :: tokens = front ++ refusal.rest ∧
        Timely AreItems front refusal := by
  rcases hReading.gives _ _ _ hRead with ⟨front, rfl, hGives⟩
  refine ⟨t :: front ++ taken, by simp, hTimely.found, ?_, ?_⟩
  · cases taken with
    | nil =>
        -- Nothing is needed behind what was read.
        refine ⟨[], by simp [Unended], ?_⟩
        rw [List.append_nil, List.append_nil]
        have hAlone := hGives.again [] (.inr opens_nil)
        rw [List.append_nil] at hAlone
        exact h.areItems hAlone areItems_nil
    | cons u taken =>
        rcases hTimely.possible with ⟨more, hMore, hItems⟩
        refine ⟨more, hMore, ?_⟩
        rw [List.cons_append, List.cons_append,
          List.append_assoc]
        exact h.areItems (hGives.again _ (.inl rfl)) hItems
  · rintro rest hRest ⟨nodes, hNodes⟩
    have hAgain :=
      hGives.again (taken ++ rest)
        (.inl (head?_append_of_head? hRest))
    rw [List.cons_append, List.cons_append, List.append_assoc,
      h, hAgain, Except.bind] at hNodes
    rcases map_eq_ok_iff.mp hNodes with ⟨found, hFound, _⟩
    exact hTimely.impossible rest hRest ⟨found, hFound⟩

end

/- Items are refused in time. -/
theorem timely_items
    {tokens : List Token}
    {refusal : Refusal}
    (h : items tokens = .error refusal) :
    ∃ taken,
      tokens = taken ++ refusal.rest ∧
        Timely AreItems taken refusal := by
  fun_induction items tokens with
  | case1 => cases h
  | case2 t tokens hLine ih =>
      rcases ih h with ⟨taken, rfl, hTimely⟩
      refine ⟨[t] ++ taken, rfl, hTimely.prepend ?_⟩
      intro list
      rw [List.singleton_append, AreItems, items_newline hLine]
      rfl
  | case3 t tokens hLine hRule node rest hRun ih =>
      rcases ih (map_eq_error_iff.mp h) with
        ⟨taken, rfl, hTimely⟩
      exact
        (begins_rule hRule).timely_behind
          (foresees_ruleReading _) hRun hTimely
  | case4 t tokens hLine hRule found hRun =>
      cases h
      exact
        (begins_rule hRule).timely_of_refused
          (foresees_ruleReading _) hRun
  | case5 t tokens hLine hRule hTest node rest hRun ih =>
      rcases ih (map_eq_error_iff.mp h) with
        ⟨taken, rfl, hTimely⟩
      exact
        (begins_test hTest).timely_behind
          (foresees_testReading _) hRun hTimely
  | case6 t tokens hLine hRule hTest found hRun =>
      cases h
      exact
        (begins_test hTest).timely_of_refused
          (foresees_testReading _) hRun
  | case7 t tokens hLine hRule hTest =>
      cases h
      refine
        ⟨[], rfl, rfl,
          ⟨[], by simp [Unended], areItems_nil⟩, ?_⟩
      · rintro rest hRest ⟨nodes, hNodes⟩
        cases rest with
        | nil => cases hRest
        | cons u rest =>
            cases hRest
            rw [List.nil_append, items, if_neg hLine,
              if_neg hRule, if_neg hTest] at hNodes
            cases hNodes

end Node

------------------------------------------------------------
-- Programs
------------------------------------------------------------

namespace Reader

/- The tokens are read as a program. -/
def HoldsProgram (tokens : List Token) : Prop :=
  ∃ tree, (ofTokens tokens).program.1 = .ok tree

theorem holdsProgram_iff
    {tokens : List Token} :
    HoldsProgram tokens ↔
      Node.AreItems (ofTokens tokens).ahead := by
  simp only [HoldsProgram, program, run_ok_iff,
    Node.programReading, map_eq_ok_iff]
  constructor
  · rintro ⟨_, _, nodes, hNodes, _⟩
    exact ⟨nodes, hNodes⟩
  · rintro ⟨nodes, hNodes⟩
    exact ⟨_, [], nodes, hNodes, rfl⟩

/-
  An error of a program is about the first of the tokens that is
  impossible.
-/
theorem error_of_program_first_impossible
    {text : String}
    {tokens : List Token}
    {error : ParseError}
    (hText : tokenize text = .ok tokens)
    (hError : (ofTokens tokens).program.1 = .error error) :
    ∃ k, FirstImpossible HoldsProgram tokens k error.found := by
  rcases lexemes_of_tokenize hText with
    ⟨body, stop, rfl, hStop, hLexemes⟩
  have hBody : Unended body :=
    fun t hT => (hLexemes t hT).ne_finish
  have hHolds :
      HoldsProgram =
        fun list => Node.AreItems (ofTokens list).ahead :=
    funext fun list => propext holdsProgram_iff
  rw [ofTokens_concat hBody hStop, program, run_error_iff]
    at hError
  rcases hError with ⟨refusal, hRefused, rfl⟩
  rcases Node.timely_items (map_eq_error_iff.mp hRefused) with
    ⟨taken, rfl, hTimely⟩
  rw [hHolds]
  exact ⟨taken.length, hTimely.firstImpossible hBody hStop⟩

/- A condition does not go on to the next line. -/
theorem error_of_program_first_impossible_line :
    ∃ tokens k,
      tokenize "rule \"r\" when a\nthen b = 1" = .ok tokens ∧
        FirstImpossible HoldsProgram tokens k
          ⟨.newline, "\n", ⟨1, 16⟩⟩ := by
  have hRefused :
      (tokenize "rule \"r\" when a\nthen b = 1").map
          (fun tokens =>
            (ofTokens tokens).program.1.map fun _ => ()) =
        .ok
          (.error
            ⟨.thenWord, ⟨.newline, "\n", ⟨1, 16⟩⟩⟩) := by
    decide +kernel
  rcases map_eq_ok_iff.mp hRefused with
    ⟨tokens, hText, hError⟩
  rcases
      error_of_program_first_impossible hText
        (map_eq_error_iff.mp hError) with
    ⟨k, hFirst⟩
  exact ⟨tokens, k, hText, hFirst⟩

end Reader

end Rulebook
