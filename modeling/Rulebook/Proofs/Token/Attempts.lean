import Mathlib.Data.List.Chain
import Mathlib.Data.Prod.Lex
import Rulebook.Proofs.Token.Faults
import Rulebook.Proofs.Token.Spelling

/-
  Attempts to read tokens, one after the other and past errors:
  they never go back in the text, and where one of them makes no
  progress, no later one does.

  Key definitions include:
    * `Cursor.Attempt`
    * `Cursor.Precedes`
    * `Cursor.Continues`

  Main results:
    * `Position.lt_after`
    * `Cursor.attempt_next`
    * `Cursor.pairwise_results`
    * `Cursor.isChain_results`
    * `Cursor.exists_results_of_tokens`
    * `Cursor.results_progress`
-/

namespace Rulebook

------------------------------------------------------------
-- The Order Of Places
------------------------------------------------------------

namespace Position

/- Places are ordered by lines, and on a line by columns. -/
instance : PartialOrder Position :=
  PartialOrder.lift (fun p => toLex (p.line, p.column)) (by
    rintro ⟨line, column⟩ ⟨line', column'⟩ hSame
    cases hSame
    rfl)

variable {p q : Position}

theorem le_iff :
    p ≤ q ↔
      p.line < q.line ∨
        p.line = q.line ∧ p.column ≤ q.column :=
  Prod.Lex.toLex_le_toLex

theorem lt_iff :
    p < q ↔
      p.line < q.line ∨
        p.line = q.line ∧ p.column < q.column :=
  Prod.Lex.toLex_lt_toLex

/- Every character leads further on. -/
theorem lt_step
    (p : Position)
    (c : Char) : p < p.step c := by
  rw [lt_iff]
  unfold step
  split
  · exact .inl (Nat.lt_succ_self _)
  · exact .inr ⟨rfl, Nat.lt_succ_self _⟩

/- No run of characters leads back. -/
theorem le_after
    (p : Position)
    (chars : List Char) : p ≤ p.after chars := by
  induction chars generalizing p with
  | nil => exact le_rfl
  | cons c chars ih =>
      exact (lt_step p c).le.trans (ih (p.step c))

/- A run that is not empty leads further on. -/
theorem lt_after
    (p : Position)
    {chars : List Char}
    (h : chars ≠ []) : p < p.after chars := by
  cases chars with
  | nil => exact absurd rfl h
  | cons c chars =>
      exact
        (lt_step p c).trans_le (le_after (p.step c) chars)

end Position

------------------------------------------------------------
-- Single Attempts
------------------------------------------------------------

/- A character that begins no token is never passed. -/
def LexFault.isStuck : LexFault → Bool
  | .loneBang => true
  | .unknownChar _ => true
  | _ => false

namespace Cursor

/-
  What an attempt gives and where it leaves the cursor.  Only
  the end of the text and faults that are stuck leave it where
  they were found, behind the trivia.
-/
inductive Attempt
    (cursor : Cursor) :
    Except LexError Token → Cursor → Prop where
  | finish
      (hRest : cursor.skipTrivia.rest = []) :
      Attempt cursor
        (.ok ⟨.finish, "", cursor.skipTrivia.position⟩)
        cursor.skipTrivia
  | token
      {t : Token}
      {behind : Cursor}
      (hKind : t.kind ≠ .finish)
      (hPlace : t.position = cursor.skipTrivia.position)
      (hBehind : t.position < behind.position) :
      Attempt cursor (.ok t) behind
  | stuck
      {fault : LexFault}
      (hFault : fault.isStuck = true) :
      Attempt cursor
        (.error ⟨fault, cursor.skipTrivia.position⟩)
        cursor.skipTrivia
  | openString
      {behind : Cursor}
      (hBehind :
        cursor.skipTrivia.position < behind.position)
      (hRest : ∀ c ∈ behind.rest.head?, c = '\n') :
      Attempt cursor
        (.error ⟨.openString, cursor.skipTrivia.position⟩)
        behind
  | danglingEscape
      {behind : Cursor}
      (hBehind :
        cursor.skipTrivia.position < behind.position)
      (hRest : behind.rest = []) :
      Attempt cursor
        (.error ⟨.danglingEscape, behind.position⟩) behind

/- A fault that is stuck is found again where it was. -/
theorem attempt_stuck
    {cursor : Cursor}
    {fault : LexFault}
    {rest : List Char}
    (hFault : fault.isStuck = true)
    (hRest : rest = afterTrivia cursor.rest) :
    Attempt cursor
      (.error ⟨fault, cursor.skipTrivia.position⟩)
      ⟨cursor.skipTrivia.position, rest⟩ := by
  rw [hRest]
  exact .stuck hFault

/- Every attempt is one of these. -/
theorem attempt_next (cursor : Cursor) :
    Attempt cursor cursor.next.1 cursor.next.2 := by
  have hSource :=
    Piece.source_ofChars (afterTrivia cursor.rest)
  rw [next_eq_take]
  cases hPiece : Piece.ofChars (afterTrivia cursor.rest) with
  | nothing =>
      rw [hPiece] at hSource
      exact .finish hSource.symm
  | spelled kind lexeme spelling rest =>
      exact
        .token (spelled_of_ofChars hPiece).shape.ne_finish rfl
          (Position.lt_after _ (Piece.spelling_ne_nil hPiece))
  | faulty fault passed rest =>
      have hBreaks :=
        breaks_of_ofChars (isSpacing_afterTrivia _)
          (startsComment_afterTrivia _) hPiece
      rw [hPiece] at hSource
      cases hBreaks with
      | loneBang hNext => exact attempt_stuck rfl hSource
      | unknownChar hTrivia hToken =>
          exact attempt_stuck rfl hSource
      | openString hBody hRest =>
          exact
            .openString (Position.lt_after _ (by simp)) hRest
      | @danglingEscape body contents hBody =>
          have hBehind :=
            Position.lt_after cursor.skipTrivia.position
              (List.cons_ne_nil '"' (body ++ ['\\']))
          exact
            @Attempt.danglingEscape cursor ⟨_, []⟩ hBehind rfl

theorem attempt_of_next
    {cursor behind : Cursor}
    {result : Except LexError Token}
    (h : cursor.next = (result, behind)) :
    Attempt cursor result behind := by
  have hAttempt := attempt_next cursor
  rw [h] at hAttempt
  exact hAttempt

/- The place of a token or of an error. -/
def reported : Except LexError Token → Position
  | .ok t => t.position
  | .error e => e.position

namespace Attempt

variable {cursor behind : Cursor}
variable {result : Except LexError Token}

/- Nothing is reported before the cursor. -/
theorem le_reported
    (h : Attempt cursor result behind) :
    cursor.position ≤ reported result := by
  have hTrivia :
      cursor.position ≤ cursor.skipTrivia.position :=
    Position.le_after _ _
  cases h with
  | finish hRest => exact hTrivia
  | token hKind hPlace hBehind =>
      rw [← hPlace] at hTrivia
      exact hTrivia
  | stuck hFault => exact hTrivia
  | openString hBehind hRest => exact hTrivia
  | danglingEscape hBehind hRest =>
      exact hTrivia.trans hBehind.le

/- The cursor is left nowhere before what is reported. -/
theorem reported_le
    (h : Attempt cursor result behind) :
    reported result ≤ behind.position := by
  cases h with
  | finish hRest => exact le_rfl
  | token hKind hPlace hBehind => exact hBehind.le
  | stuck hFault => exact le_rfl
  | openString hBehind hRest => exact hBehind.le
  | danglingEscape hBehind hRest => exact le_rfl

end Attempt

------------------------------------------------------------
-- Attempts In A Row
------------------------------------------------------------

variable {cursor : Cursor}
variable {result : Except LexError Token}

/- Nothing is reported before the cursor, however often. -/
theorem le_reported_of_mem_results
    {n : Nat}
    (h : result ∈ cursor.results n) :
    cursor.position ≤ reported result := by
  induction n generalizing cursor with
  | zero => cases h
  | succ n ih =>
      have hNext := attempt_next cursor
      rcases List.mem_cons.mp h with rfl | hLater
      · exact hNext.le_reported
      · exact
          (hNext.le_reported.trans hNext.reported_le).trans
            (ih hLater)

/- Behind its trivia a cursor has the same next result. -/
theorem next_skipTrivia (cursor : Cursor) :
    cursor.skipTrivia.next = cursor.next := by
  have hSkip :
      cursor.skipTrivia.skipTrivia = cursor.skipTrivia :=
    skipTrivia_of_none _
      (afterTrivia_eq_self (isSpacing_afterTrivia _)
        (startsComment_afterTrivia _))
  rw [next_of_skipTrivia hSkip]
  rfl

/- Where the cursor stays, every attempt gives the same. -/
theorem eq_of_mem_results
    {later : Except LexError Token}
    {n : Nat}
    (hNext : cursor.next = (result, cursor.skipTrivia))
    (hLater : later ∈ cursor.skipTrivia.results n) :
    later = result := by
  induction n with
  | zero => cases hLater
  | succ n ih =>
      rw [results, next_skipTrivia, hNext] at hLater
      rcases List.mem_cons.mp hLater with rfl | hLater
      · rfl
      · exact ih hLater

/-
  What an earlier result says of all later ones: they are placed
  where it is or behind it, after a token always behind it, and
  they are the same after the end of the text and after a fault
  that is stuck.
-/
structure Precedes
    (earlier later : Except LexError Token) : Prop where
  place :
    reported earlier ≤ reported later
  token :
    ∀ t, earlier = .ok t → t.kind ≠ .finish →
      t.position < reported later
  finish :
    ∀ t, earlier = .ok t → t.kind = .finish → later = earlier
  stuck :
    ∀ e, earlier = .error e → e.fault.isStuck = true →
      later = earlier

/-
  What a result says of the next one: behind an open literal the
  line or the text ends, behind a dangling escape the text.
-/
structure Continues
    (result next : Except LexError Token) : Prop where
  openString :
    ∀ e, result = .error e → e.fault = .openString →
      ∃ t, next = .ok t ∧
        (t.kind = .newline ∨ t.kind = .finish)
  danglingEscape :
    ∀ e, result = .error e → e.fault = .danglingEscape →
      ∃ t, next = .ok t ∧ t.kind = .finish

/- A result precedes all that are found behind it. -/
theorem precedes_of_mem_results
    {cursor behind : Cursor}
    {result later : Except LexError Token}
    {n : Nat}
    (hNext : cursor.next = (result, behind))
    (hLater : later ∈ behind.results n) :
    Precedes result later := by
  have hAttempt := attempt_of_next hNext
  have hPlace : reported result ≤ reported later :=
    hAttempt.reported_le.trans
      (le_reported_of_mem_results hLater)
  cases hAttempt with
  | finish hRest =>
      have hSame := eq_of_mem_results hNext hLater
      refine
        ⟨hPlace, ?_, fun _ _ _ => hSame, by rintro e ⟨⟩⟩
      rintro t ⟨⟩ hKind
      exact absurd rfl hKind
  | @token t behind hKind _ hBehind =>
      refine ⟨hPlace, ?_, ?_, by rintro e ⟨⟩⟩
      · rintro u ⟨⟩ _
        exact
          hBehind.trans_le (le_reported_of_mem_results hLater)
      · rintro u ⟨⟩ hFinish
        exact absurd hFinish hKind
  | stuck hFault =>
      have hSame := eq_of_mem_results hNext hLater
      exact
        ⟨hPlace, by rintro t ⟨⟩, by rintro t ⟨⟩,
          fun _ _ _ => hSame⟩
  | openString hBehind hRest =>
      refine ⟨hPlace, by rintro t ⟨⟩, by rintro t ⟨⟩, ?_⟩
      rintro e ⟨⟩ hStuck
      cases hStuck
  | danglingEscape hBehind hRest =>
      refine ⟨hPlace, by rintro t ⟨⟩, by rintro t ⟨⟩, ?_⟩
      rintro e ⟨⟩ hStuck
      cases hStuck

/- Every result precedes all later ones. -/
theorem pairwise_results
    (cursor : Cursor)
    (n : Nat) :
    (cursor.results n).Pairwise Precedes := by
  induction n generalizing cursor with
  | zero => exact .nil
  | succ n ih =>
      exact
        .cons (fun _ hLater => precedes_of_mem_results rfl hLater)
          (ih cursor.next.2)

/- Nothing is left but the end of the text. -/
theorem next_of_nil
    {cursor : Cursor}
    (h : cursor.rest = []) :
    ∃ t, cursor.next.1 = .ok t ∧ t.kind = .finish := by
  rcases cursor with ⟨p, rest⟩
  cases h
  exact ⟨_, rfl, rfl⟩

/- Where the line or the text ends, this is the next token. -/
theorem next_of_lineEnd
    {cursor : Cursor}
    (h : ∀ c ∈ cursor.rest.head?, c = '\n') :
    ∃ t,
      cursor.next.1 = .ok t ∧
        (t.kind = .newline ∨ t.kind = .finish) := by
  rcases cursor with ⟨p, rest⟩
  cases rest with
  | nil => exact ⟨_, rfl, .inr rfl⟩
  | cons c rest =>
      rw [h c rfl]
      exact ⟨_, rfl, .inl rfl⟩

/- A result goes on with the next one. -/
theorem continues_next
    {cursor behind : Cursor}
    {result : Except LexError Token}
    (hNext : cursor.next = (result, behind)) :
    Continues result behind.next.1 := by
  have hAttempt := attempt_of_next hNext
  cases hAttempt with
  | finish hRest => exact ⟨by rintro e ⟨⟩, by rintro e ⟨⟩⟩
  | token hKind hPlace hBehind =>
      exact ⟨by rintro e ⟨⟩, by rintro e ⟨⟩⟩
  | stuck hFault =>
      constructor
      · rintro e ⟨⟩ rfl
        cases hFault
      · rintro e ⟨⟩ rfl
        cases hFault
  | openString hBehind hRest =>
      constructor
      · intro _ _ _
        exact next_of_lineEnd hRest
      · rintro e ⟨⟩ hFault
        cases hFault
  | danglingEscape hBehind hRest =>
      constructor
      · rintro e ⟨⟩ hFault
        cases hFault
      · intro _ _ _
        exact next_of_nil hRest

/- Every result goes on with the one behind it. -/
theorem isChain_results
    (cursor : Cursor)
    (n : Nat) :
    (cursor.results n).IsChain Continues := by
  induction n generalizing cursor with
  | zero => exact .nil
  | succ n ih =>
      refine List.isChain_cons.mpr ⟨?_, ih cursor.next.2⟩
      intro next hHead
      cases n with
      | zero => cases hHead
      | succ n =>
          cases hHead
          exact continues_next rfl

------------------------------------------------------------
-- All Tokens
------------------------------------------------------------

/-
  All tokens from a cursor on are the results up to the first
  that is the end of the text or an error, and there is at most
  one token before it for each character.
-/
theorem exists_results_of_tokens (cursor : Cursor) :
    ∃ tokens last,
      cursor.results (tokens.length + 1) =
          tokens.map .ok ++ [last] ∧
        (∀ t ∈ tokens, t.kind ≠ .finish) ∧
        (∀ stop, last = .ok stop → stop.kind = .finish) ∧
        cursor.tokens =
          last.map (fun stop => tokens ++ [stop]) ∧
        tokens.length ≤ cursor.rest.length := by
  fun_induction Cursor.tokens cursor with
  | case1 cursor e behind hNext =>
      refine
        ⟨[], .error e, ?_, by simp, by rintro t ⟨⟩, rfl,
          by simp⟩
      rw [List.length_nil, results, hNext]
      rfl
  | case2 cursor t behind hNext hKind =>
      refine ⟨[], .ok t, ?_, by simp, ?_, rfl, by simp⟩
      · rw [List.length_nil, results, hNext]
        rfl
      · rintro stop ⟨⟩
        exact hKind
  | case3 cursor t behind hNext hKind ih =>
      rcases ih with
        ⟨tokens, last, hResults, hTokens, hLast, hAll,
          hLength⟩
      have hShorter := next_shorter hNext hKind
      refine ⟨t :: tokens, last, ?_, ?_, hLast, ?_, ?_⟩
      · rw [List.length_cons, results, hNext, hResults]
        rfl
      · exact List.forall_mem_cons.mpr ⟨hKind, hTokens⟩
      · rw [hAll]
        cases last <;> rfl
      · rw [List.length_cons]
        omega

/-
  However often tokens are read from a text, the results are in
  the order of their places and go on as each of them says; and
  to read all of them takes at most one attempt more than the
  text has characters.
-/
theorem results_progress (text : String) :
    (∀ n,
      ((ofText text).results n).Pairwise Precedes ∧
        ((ofText text).results n).IsChain Continues) ∧
      ∃ tokens last,
        (ofText text).results (tokens.length + 1) =
            tokens.map .ok ++ [last] ∧
          (∀ t ∈ tokens, t.kind ≠ .finish) ∧
          (∀ stop, last = .ok stop → stop.kind = .finish) ∧
          tokenize text =
            last.map (fun stop => tokens ++ [stop]) ∧
          tokens.length + 1 ≤ text.length + 1 := by
  constructor
  · intro n
    exact ⟨pairwise_results _ n, isChain_results _ n⟩
  · rcases exists_results_of_tokens (ofText text) with
      ⟨tokens, last, hResults, hTokens, hLast, hAll, hLength⟩
    exact
      ⟨tokens, last, hResults, hTokens, hLast, hAll,
        Nat.succ_le_succ hLength⟩

/- An open literal ends with its line, a lone sign does not. -/
example :
    (ofText "\"a\n1 !").results 5 =
      [.error ⟨.openString, ⟨1, 1⟩⟩,
       .ok ⟨.newline, "\n", ⟨1, 3⟩⟩,
       .ok ⟨.number, "1", ⟨2, 1⟩⟩,
       .error ⟨.loneBang, ⟨2, 3⟩⟩,
       .error ⟨.loneBang, ⟨2, 3⟩⟩] := by
  decide +kernel

end Cursor

end Rulebook
