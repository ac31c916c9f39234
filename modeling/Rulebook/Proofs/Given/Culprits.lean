import Rulebook.Proofs.Expr.Faults
import Rulebook.Proofs.Given.Lines
import Rulebook.Proofs.Program.Spans

/-
  Where the errors of the `given` lines of a program point: into
  the part that offends, except that a missing path behind a
  comma is looked for at the start of the line.

  Key definitions include:
    * `Token.EndsBefore`
    * `Position.Among`

  Main results:
    * `pairwise_inRow`
    * `Grammar.Offends.among_or_start`
    * `Source.culprits_of_givens`
-/

namespace Rulebook

------------------------------------------------------------
-- Places In A Row
------------------------------------------------------------

/- A token ends before another one begins, on the same line. -/
structure Token.EndsBefore (t u : Token) : Prop where
  line : t.position.line = u.position.line
  column :
    t.position.column + t.spelling.length < u.position.column

/-
  A place among tokens is not before the first of them and no
  further than right behind the last.
-/
def Position.Among
    (run : List Token)
    (p : Position) : Prop :=
  ∃ first ∈ run.head?, ∃ last ∈ run.getLast?,
    p.line = first.position.line ∧
      first.position.column ≤ p.column ∧
      p.line = last.position.line ∧
      p.column ≤ last.position.column + last.spelling.length

/- The tokens of a row are on its line, from its column on. -/
theorem place_of_mem_inRow
    {column : Nat}
    {tokens : List Token} :
    ∀ t ∈ inRow column tokens,
      t.position.line = 1 ∧ column ≤ t.position.column := by
  induction tokens generalizing column with
  | nil => simp [inRow]
  | cons t tokens ih =>
      rw [inRow, List.forall_mem_cons]
      refine ⟨⟨rfl, Nat.le_refl _⟩, ?_⟩
      intro u hU
      rcases ih u hU with ⟨hLine, hColumn⟩
      exact ⟨hLine, by omega⟩

/- The first of them is right there. -/
theorem head?_inRow
    {column : Nat}
    {tokens : List Token} :
    ∀ t ∈ (inRow column tokens).head?,
      t.position = ⟨1, column⟩ := by
  intro t hT
  cases tokens with
  | nil => cases hT
  | cons u tokens =>
      cases hT
      rfl

/- In a row each token ends before all that come behind it. -/
theorem pairwise_inRow
    (column : Nat)
    (tokens : List Token) :
    (inRow column tokens).Pairwise Token.EndsBefore := by
  induction tokens generalizing column with
  | nil => exact .nil
  | cons t tokens ih =>
      refine .cons ?_ (ih _)
      intro u hU
      rcases place_of_mem_inRow u hU with ⟨hLine, hColumn⟩
      exact ⟨hLine.symm, Nat.lt_of_succ_le hColumn⟩

variable {run : List Token}

/- A place at one of the tokens is among them. -/
theorem Position.among_of_mem
    {t : Token}
    {p : Position}
    (hRun : run.Pairwise Token.EndsBefore)
    (hT : t ∈ run)
    (hLine : p.line = t.position.line)
    (hFirst : t.position.column ≤ p.column)
    (hLast :
      p.column ≤ t.position.column + t.spelling.length) :
    p.Among run := by
  have hNonempty : run ≠ [] := List.ne_nil_of_mem hT
  have hBegins :
      (run.head hNonempty).position.line =
          t.position.line ∧
        (run.head hNonempty).position.column ≤
          t.position.column := by
    cases run with
    | nil => cases hT
    | cons first others =>
        rcases List.mem_cons.mp hT with rfl | hBehind
        · exact ⟨rfl, Nat.le_refl _⟩
        · have hBefore :=
            (List.pairwise_cons.mp hRun).1 t hBehind
          have hColumn := hBefore.column
          exact
            ⟨hBefore.line, Nat.le_of_lt (by simp; omega)⟩
  have hEnds :
      t.position.line =
          (run.getLast hNonempty).position.line ∧
        t.position.column + t.spelling.length ≤
          (run.getLast hNonempty).position.column +
            (run.getLast hNonempty).spelling.length := by
    rw [← List.dropLast_append_getLast hNonempty] at hRun hT
    rcases List.mem_append.mp hT with hFront | hEnd
    · have hBefore :=
        (List.pairwise_append.mp hRun).2.2 t hFront _
          List.mem_cons_self
      have hColumn := hBefore.column
      exact ⟨hBefore.line, by omega⟩
    · have hSame := List.mem_singleton.mp hEnd
      rw [← hSame]
      exact ⟨rfl, Nat.le_refl _⟩
  refine
    ⟨_, List.head_mem_head? hNonempty, _,
      List.getLast_mem_getLast? hNonempty, ?_, ?_, ?_, ?_⟩
  · rw [hLine, hBegins.1]
  · exact Nat.le_trans hBegins.2 hFirst
  · rw [hLine, hEnds.1]
  · exact Nat.le_trans hLast hEnds.2

/- The place of one of the tokens is among them. -/
theorem Token.among_of_mem
    {t : Token}
    (hRun : run.Pairwise Token.EndsBefore)
    (hT : t ∈ run) : t.position.Among run :=
  Position.among_of_mem hRun hT rfl (Nat.le_refl _)
    (Nat.le_add_right _ _)

/- So is the end behind some of them. -/
theorem Reader.among_endOf
    {tokens : List Token}
    (hRun : run.Pairwise Token.EndsBefore)
    (hSpelled : ∀ t ∈ run, Respellable t)
    (hTokens : ∀ t ∈ tokens, t ∈ run)
    (hNonempty : tokens ≠ []) :
    (endOf tokens).position.Among run := by
  have hLast := List.getLast?_eq_some_getLast hNonempty
  have hIn := hTokens _ (List.getLast_mem hNonempty)
  have hWidth := (hSpelled _ hIn).spelling_pos
  unfold endOf
  rw [hLast]
  exact
    Position.among_of_mem hRun hIn rfl (Nat.le_add_right _ _)
      (by simp [Nat.max_eq_left hWidth])

------------------------------------------------------------
-- Faults Of Parts
------------------------------------------------------------

namespace Grammar

variable {part : List Token}
variable {error : ParseError}

/- Tokens that are no path are not blamed on others. -/
theorem Misnames.mem_of_found
    {tokens : List Token}
    {expected : Expectation}
    {found : Option Token}
    (h : Misnames tokens expected found) :
    ∀ t ∈ found, t ∈ tokens := by
  intro t hT
  cases h with
  | start hFirst => exact List.mem_of_mem_head? hT
  | dot hFirst hMore hDot hRest =>
      have hIn := List.mem_of_mem_head? hT
      simp [hIn]
  | behind hFirst hMore hNext =>
      cases hT
      simp

/- Only where a path is missing, no token tells the place. -/
theorem Offends.among_or_start
    (hRun : part.Pairwise Token.EndsBefore)
    (hSpelled : ∀ t ∈ part, Respellable t)
    (h : Offends part error) :
    error.found.position.Among part ∨
      ∃ sign ∈ part.head?, sign.kind = .symbol .assign := by
  cases h with
  | sign hBefore hHolds hSign =>
      exact .inl (Token.among_of_mem hRun (by simp))
  | @target before source sign expected found hBefore hSign
      hTarget =>
      cases before with
      | nil => exact .inr ⟨sign, rfl, hSign⟩
      | cons first before =>
          left
          cases found with
          | some t =>
              have hIn := hTarget.mem_of_found t rfl
              exact
                Token.among_of_mem hRun
                  (List.mem_append_left _ hIn)
          | none =>
              exact
                Reader.among_endOf hRun hSpelled
                  (fun t hT => List.mem_append_left _ hT)
                  (by simp)
  | @source first sign more source names error hFirst hMore
      hSign hSource =>
      left
      rcases Reader.found_of_run findsGiven_readingAll hSource
        with hAhead | hStop
      · have hIn : error.found ∈ sign :: source :=
          List.mem_cons_of_mem _ hAhead
        exact
          Token.among_of_mem hRun (List.mem_append_right _ hIn)
      · rw [hStop]
        exact
          Reader.among_endOf hRun hSpelled
            (fun t hT => List.mem_append_right _ hT) (by simp)

/- A part that begins with the sign is blamed on the start. -/
theorem Offends.start_of_sign
    {sign : Token}
    (h : Offends part error)
    (hHead : sign ∈ part.head?)
    (hSign : sign.kind = .symbol .assign) :
    error.found.position = .start := by
  have hHolds := holdsEquals_of_assign hSign
  cases h with
  | @sign before behind other hBefore hOther hKind =>
      cases before with
      | nil =>
          cases hHead
          exact absurd hSign hKind
      | cons first before =>
          cases hHead
          rw [hBefore sign (by simp)] at hHolds
          cases hHolds
  | @target before source other expected found hBefore _
      hTarget =>
      cases before with
      | nil =>
          have hFound : found = none := by
            cases found with
            | none => rfl
            | some t => cases hTarget.mem_of_found t rfl
          rw [hFound]
          rfl
      | cons first before =>
          cases hHead
          rw [hBefore sign (by simp)] at hHolds
          cases hHolds
  | source hFirst =>
      cases hHead
      rw [hFirst] at hSign
      cases hSign

end Grammar

open Grammar

------------------------------------------------------------
-- Sources
------------------------------------------------------------

/-
  Where the part of a row that offends is blamed: among its
  tokens, unless it begins with the sign behind another part.
-/
theorem Grammar.Parted.among_iff
    {span part : List Token}
    {front back : List (List Token)}
    {error : ParseError}
    (hSpelled : ∀ t ∈ span, Respellable t)
    (hParts :
      Parted [] (inRow 1 span) (front ++ part :: back))
    (h : Offends part error) :
    error.found.position.Among part ↔
      ¬ (front ≠ [] ∧
        ∃ sign ∈ part.head?, sign.kind = .symbol .assign) := by
  have hInfix : part <:+: inRow 1 span :=
    hParts.infix_of_mem (by simp)
  have hRun : part.Pairwise Token.EndsBefore :=
    (pairwise_inRow 1 span).sublist hInfix.sublist
  have hPart : ∀ t ∈ part, Respellable t :=
    fun t hT =>
      respellable_of_mem_inRow hSpelled t (hInfix.subset hT)
  constructor
  · rintro ⟨first, hFirst, _, _, _, hColumn, _⟩
      ⟨hFront, sign, hHead, hSign⟩
    -- What comes before the part takes the first column.
    have hStart := h.start_of_sign hHead hSign
    rcases hParts.exists_front hFront with
      ⟨before, behind, hBefore, hRow⟩
    rcases List.exists_mem_of_ne_nil before hBefore with
      ⟨t, hT⟩
    have hOrder := pairwise_inRow 1 span
    have hColumnT :=
      place_of_mem_inRow t (by rw [hRow]; simp [hT])
    rw [hRow, List.append_assoc] at hOrder
    have hTFirst :=
      (List.pairwise_append.mp hOrder).2.2 t hT first
        (List.mem_append_left _ (List.mem_of_mem_head? hFirst))
    have hTColumn := hTFirst.column
    rw [hStart] at hColumn
    have hOne : first.position.column ≤ 1 := hColumn
    omega
  · intro hNot
    rcases h.among_or_start hRun hPart with
      hAmong | ⟨sign, hHead, hSign⟩
    · exact hAmong
    · have hFront : front = [] := by
        by_contra hFront
        exact hNot ⟨hFront, sign, hHead, hSign⟩
      rw [hFront, List.nil_append] at hParts
      -- The part begins where the row does.
      have hPlace : sign.position = .start := by
        rcases hParts.head_begins with ⟨rest, hRow⟩
        apply @head?_inRow 1 span
        rw [← hRow, List.head?_append, hHead]
        rfl
      rw [h.start_of_sign hHead hSign, ← hPlace]
      exact
        Token.among_of_mem hRun (List.mem_of_mem_head? hHead)

/-
  The errors of the `given` lines of a source.  Each is that of
  the first part that is not acceptable, and its place is among
  the tokens of this part unless the part begins with the sign
  and is not the first one.  In that case it is the start of the
  line.
-/
theorem Source.culprits_of_givens
    {source : String}
    {tree : Node}
    (h : program source = .ok tree) :
    ∀ node ∈ tree.expressions,
      node.kind = .given →
      ∀ error,
        compileAssignments node.content = .error error →
        ∃ tokens body stop front part back,
          tokenize node.content = .ok tokens ∧
            withoutLineEnds tokens = body ++ [stop] ∧
            stop.kind = .finish ∧
            Parted [] body (front ++ part :: back) ∧
            (∀ p ∈ front, Acceptable p) ∧
            ¬ Acceptable part ∧
            (error.position.Among part ↔
              ¬ (front ≠ [] ∧
                ∃ sign ∈ part.head?,
                  sign.kind = .symbol .assign)) ∧
            ∀ sign ∈ part.head?,
              sign.kind = .symbol .assign →
                error.position = .start := by
  intro node hNode _ error hError
  rcases program_eq_ok_iff.mp h with ⟨p, hText, _, rfl⟩
  rw [p.expressions_node] at hNode
  rcases List.mem_map.mp hNode with ⟨⟨_, span⟩, hSpan, rfl⟩
  have hSpelled : ∀ t ∈ span, Respellable t :=
    respellable_of_mem_spans hText hSpan
  have hContent := (ProgramSyntax.spells_of_mem_spans hSpan).1
  simp only at hContent hError ⊢
  rw [hContent] at hError ⊢
  rcases
    (compileAssignments_eq_error_iff
      (expressionReader_spellingOfTokens hSpelled)
      (respellable_of_mem_inRow hSpelled)).mp hError
    with ⟨front, part, back, found, hParts, hFront, hPart, rfl⟩
  have hParted :
      Parted [] (inRow 1 span) (front ++ part :: back) :=
    parted_iff.mpr hParts.symm
  have hTokens :
      ∀ t ∈ part, Lexeme t.kind t.lexeme.toList := by
    intro t hT
    have hRow : t ∈ inRow 1 span :=
      (hParted.infix_of_mem (by simp)).subset hT
    exact (respellable_of_mem_inRow hSpelled t hRow).1
  exact
    ⟨_, inRow 1 span, endAt _, front, part, back,
      tokenize_spellingOfTokens_row hSpelled,
      withoutLineEnds_concat (respellable_of_mem_inRow hSpelled)
        rfl,
      rfl, hParted, hFront,
      hPart.not_acceptable hTokens,
      hParted.among_iff hSpelled hPart,
      fun sign hHead hSign => hPart.start_of_sign hHead hSign⟩

/- A test that opens a parenthesis and does not close it. -/
def unclosed : String :=
  "test \"t\" \x7b\n" ++
    "  given a = 1, b.c = (2\n" ++
    "\x7d\n"

/- The error is noticed behind the last token of its part. -/
theorem Source.culprits_of_givens_unclosed :
    ∃ tree node error tokens body stop front part back,
      program unclosed = .ok tree ∧
        node ∈ tree.expressions ∧
        node.kind = .given ∧
        compileAssignments node.content = .error error ∧
        error.position = ⟨1, 20⟩ ∧
        tokenize node.content = .ok tokens ∧
        withoutLineEnds tokens = body ++ [stop] ∧
        Parted [] body (front ++ part :: back) ∧
        error.position.Among part := by
  have hSeen :
      (program unclosed).map
          (·.expressions.map fun node =>
            (node.kind, node.content)) =
        .ok [(.given, "a = 1 , b . c = ( 2")] := by
    decide +kernel
  have hError :
      (compileAssignments "a = 1 , b . c = ( 2").map
          (fun _ => ()) =
        .error
          ⟨.unexpected .closingParen
              ⟨.finish, "", ⟨1, 20⟩⟩,
            "a = 1 , b . c = ( 2", ⟨1, 20⟩, none⟩ := by
    decide +kernel
  rcases map_eq_ok_iff.mp hSeen with ⟨tree, hTree, hNodes⟩
  have hError := map_eq_error_iff.mp hError
  rcases List.map_eq_singleton_iff.mp hNodes with
    ⟨node, hExpressions, hNode⟩
  rcases Prod.mk.inj hNode with ⟨hKind, hContent⟩
  rw [← hContent] at hError
  have hIn : node ∈ tree.expressions := by
    simp [hExpressions]
  rcases culprits_of_givens hTree node hIn hKind _ hError with
    ⟨tokens, body, stop, front, part, back, hText, hKept, _,
      hParts, _, _, hAmong, hStart⟩
  refine
    ⟨tree, node, _, tokens, body, stop, front, part, back,
      hTree, hIn, hKind, hError, rfl, hText, hKept, hParts,
      hAmong.mpr ?_⟩
  rintro ⟨_, sign, hHead, hSign⟩
  cases hStart sign hHead hSign

/- A test that gives a value to nothing behind a comma. -/
def nameless : String :=
  "test \"t\" \x7b\n" ++
    "  given a = 1, = 2\n" ++
    "\x7d\n"

/- Its second part has the fault, its first one the blame. -/
theorem Source.culprit_missed :
    ∃ tree node error tokens body stop front part back,
      program nameless = .ok tree ∧
        node ∈ tree.expressions ∧
        node.kind = .given ∧
        compileAssignments node.content = .error error ∧
        tokenize node.content = .ok tokens ∧
        withoutLineEnds tokens = body ++ [stop] ∧
        stop.kind = .finish ∧
        Parted [] body (front ++ part :: back) ∧
        (∀ p ∈ front, Acceptable p) ∧
        ¬ Acceptable part ∧
        ¬ error.position.Among part := by
  have hSeen :
      (program nameless).map
          (·.expressions.map fun node =>
            (node.kind, node.content)) =
        .ok [(.given, "a = 1 , = 2")] := by
    decide +kernel
  have hError :
      (compileAssignments "a = 1 , = 2").map (fun _ => ()) =
        .error
          ⟨.unexpected .fieldName ⟨.finish, "", ⟨1, 1⟩⟩,
            "a = 1 , = 2", ⟨1, 1⟩, none⟩ := by
    decide +kernel
  have hText :
      tokenize "a = 1 , = 2" =
        .ok
          [⟨.identifier, "a", ⟨1, 1⟩⟩,
           ⟨.symbol .assign, "=", ⟨1, 3⟩⟩,
           ⟨.number, "1", ⟨1, 5⟩⟩,
           ⟨.symbol .comma, ",", ⟨1, 7⟩⟩,
           ⟨.symbol .assign, "=", ⟨1, 9⟩⟩,
           ⟨.number, "2", ⟨1, 11⟩⟩,
           ⟨.finish, "", ⟨1, 12⟩⟩] := by
    decide +kernel
  have hOne : (Number.ofNumeral? "1").isSome = true := by
    decide +kernel
  rcases map_eq_ok_iff.mp hSeen with ⟨tree, hTree, hNodes⟩
  have hError := map_eq_error_iff.mp hError
  rcases List.map_eq_singleton_iff.mp hNodes with
    ⟨node, hExpressions, hNode⟩
  rcases Prod.mk.inj hNode with ⟨hKind, hContent⟩
  rw [← hContent] at hError hText
  refine
    ⟨tree, node, _, _,
      [⟨.identifier, "a", ⟨1, 1⟩⟩,
       ⟨.symbol .assign, "=", ⟨1, 3⟩⟩,
       ⟨.number, "1", ⟨1, 5⟩⟩,
       ⟨.symbol .comma, ",", ⟨1, 7⟩⟩,
       ⟨.symbol .assign, "=", ⟨1, 9⟩⟩,
       ⟨.number, "2", ⟨1, 11⟩⟩],
      ⟨.finish, "", ⟨1, 12⟩⟩,
      [[⟨.identifier, "a", ⟨1, 1⟩⟩,
        ⟨.symbol .assign, "=", ⟨1, 3⟩⟩,
        ⟨.number, "1", ⟨1, 5⟩⟩]],
      [⟨.symbol .assign, "=", ⟨1, 9⟩⟩,
       ⟨.number, "2", ⟨1, 11⟩⟩],
      [], hTree, by simp [hExpressions], hKind, hError, hText,
      rfl, rfl, parted_iff.mpr (by decide), ?_, ?_, ?_⟩
  · intro p hP
    rw [List.mem_singleton.mp hP]
    right
    rcases Option.isSome_iff_exists.mp hOne with ⟨n, hN⟩
    have hLiteral :
        Derives .primary [⟨.number, "1", ⟨1, 5⟩⟩]
          (.literal (.number n)) :=
      .literal (.number rfl hN)
    exact
      ⟨_, [], [], _, _, _, rfl, rfl, .none, rfl,
        (Derives.primary hLiteral).of_unary⟩
  · rintro (hNone | ⟨first, more, names, sign, source, value,
      hPart, hFirst, _⟩)
    · exact hNone _ List.mem_cons_self (by decide)
    · rcases List.cons.inj hPart with ⟨rfl, _⟩
      cases hFirst
  · rintro ⟨first, hFirst, _, _, _, hColumn, _⟩
    cases hFirst
    have hLess : 9 ≤ 1 := hColumn
    omega

end Rulebook
