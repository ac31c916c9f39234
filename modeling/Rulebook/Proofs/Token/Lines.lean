import Rulebook.Proofs.Token.Split

/-
  A text behind a line end is read as it is read alone, only
  further down, and what stands before the line end is read as
  if the text ended there.

  Key definitions include:
    * `Position.down`
    * `Token.down`
    * `LexError.down`
    * `lineCount`

  Main results:
    * `Cursor.tokens_down`
    * `Stretch.Fits.append_line`
    * `Cursor.tokens_append_line`
    * `tokenize_append_line`
-/

namespace Rulebook

------------------------------------------------------------
-- Further Down
------------------------------------------------------------

namespace Position

/- The same place some lines further down. -/
def down
    (n : Nat)
    (p : Position) : Position :=
  ⟨p.line + n, p.column⟩

theorem step_down
    (n : Nat)
    (p : Position)
    (c : Char) :
    (p.down n).step c = (p.step c).down n := by
  unfold step
  split
  · simp only [down, Nat.add_right_comm]
  · rfl

/- Movement does not depend on the line. -/
theorem after_down
    (n : Nat)
    (p : Position)
    (chars : List Char) :
    (p.down n).after chars = (p.after chars).down n := by
  induction chars generalizing p with
  | nil => rfl
  | cons c chars ih =>
      rw [after_cons, after_cons, step_down, ih]

end Position

/- The same token some lines further down. -/
def Token.down
    (n : Nat)
    (t : Token) : Token :=
  { t with position := t.position.down n }

/- The same fault some lines further down. -/
def LexError.down
    (n : Nat)
    (e : LexError) : LexError :=
  { e with position := e.position.down n }

namespace Cursor

/- The same rest some lines further down. -/
def down
    (n : Nat)
    (cursor : Cursor) : Cursor :=
  { cursor with position := cursor.position.down n }

/- The same pieces are read further down. -/
theorem take_down
    (n : Nat)
    (cursor : Cursor)
    (piece : Piece) :
    (cursor.down n).take piece =
      (((cursor.take piece).1.mapError (LexError.down n)).map
          (Token.down n),
        (cursor.take piece).2.down n) := by
  cases piece with
  | nothing => rfl
  | spelled kind lexeme spelling rest =>
      simp only [take, down, Position.after_down]
      rfl
  | faulty fault passed rest =>
      simp only [take, down, Position.after_down]
      cases fault.isAtEnd <;> rfl

theorem next_down
    (n : Nat)
    (cursor : Cursor) :
    (cursor.down n).next =
      ((cursor.next.1.mapError (LexError.down n)).map
          (Token.down n),
        cursor.next.2.down n) := by
  have hSkip :
      (cursor.down n).skipTrivia =
        cursor.skipTrivia.down n := by
    simp only [skipTrivia, down, Position.after_down]
  rw [next_eq_take, hSkip, take_down]
  rfl

/- No token follows an error. -/
theorem tokens_of_error
    {cursor behind : Cursor}
    {e : LexError}
    (h : cursor.next = (.error e, behind)) :
    cursor.tokens = .error e := by
  rw [tokens]
  split
  · rename_i hNext
    rw [h] at hNext
    cases hNext
    rfl
  · rename_i hNext
    rw [h] at hNext
    cases hNext

/- What is read further down is the same, further down. -/
theorem tokens_down
    (n : Nat)
    (cursor : Cursor) :
    (cursor.down n).tokens =
      (cursor.tokens.mapError (LexError.down n)).map
        (List.map (Token.down n)) := by
  have hDown := next_down n cursor
  fun_induction Cursor.tokens cursor with
  | case1 cursor e behind hNext =>
      rw [hNext] at hDown
      exact tokens_of_error hDown
  | case2 cursor t behind hNext hKind =>
      rw [hNext] at hDown
      exact tokens_of_finish hDown hKind
  | case3 cursor t behind hNext hKind ih =>
      rw [hNext] at hDown
      rw [tokens_of_token hDown hKind,
        ih (next_down n behind)]
      cases behind.tokens <;> rfl

end Cursor

------------------------------------------------------------
-- Before A Line End
------------------------------------------------------------

/- A line end comes first only where nothing else does. -/
theorem mem_head?_append_line
    {rest back : List Char}
    {c : Char}
    (h : c ∈ (rest ++ '\n' :: back).head?) :
    c ∈ rest.head? ∨ c = '\n' := by
  cases rest with
  | nil =>
      cases h
      exact .inr rfl
  | cons d rest => exact .inl h

/- What ends at the end of a text also ends at a line end. -/
theorem EndsToken.append_line
    {kind : TokenKind}
    {lexeme rest : List Char}
    (h : EndsToken kind lexeme rest)
    (back : List Char) :
    EndsToken kind lexeme (rest ++ '\n' :: back) where
  word hKind c hC := by
    rcases mem_head?_append_line hC with hC | rfl
    · exact h.word hKind c hC
    · decide
  digit hKind c hC := by
    rcases mem_head?_append_line hC with hC | rfl
    · exact h.digit hKind c hC
    · decide
  fraction hKind hPoint d more hRest := by
    match rest, hRest with
    | [], hRest => cases hRest
    | [c], hRest =>
        cases hRest
        decide
    | c :: e :: rest, hRest =>
        cases hRest
        exact h.fraction hKind hPoint d rest rfl
  equals hKind hHead := by
    rcases mem_head?_append_line hHead with hHead | hLine
    · exact h.equals hKind hHead
    · cases hLine

theorem Spelled.append_line
    {kind : TokenKind}
    {lexeme spelling rest : List Char}
    (h : Spelled kind lexeme spelling rest)
    (back : List Char) :
    Spelled kind lexeme spelling (rest ++ '\n' :: back) where
  shape := h.shape
  plain := h.plain
  literal := h.literal
  keyword := h.keyword
  ends := h.ends.append_line back

/- Trivia may also come before a line end. -/
theorem Trivia.append_line
    {rest gap : List Char}
    (h : Trivia rest gap)
    (back : List Char) :
    Trivia (rest ++ '\n' :: back) gap := by
  cases h with
  | blanks hBlanks => exact .blanks hBlanks
  | comment hBlanks hSign hBody hRest =>
      refine .comment hBlanks hSign hBody ?_
      intro c hC
      rcases mem_head?_append_line hC with hC | hLine
      · exact hRest c hC
      · exact hLine

/- A stretch still fits with a line behind the text. -/
theorem Stretch.Fits.append_line
    {s : Stretch}
    {before rest : List Char}
    (h : s.Fits before rest)
    (back : List Char) :
    s.Fits before (rest ++ '\n' :: back) where
  gap := by
    rw [← List.append_assoc]
    exact h.gap.append_line back
  spelled := h.spelled.append_line back
  slash hKind hHead := by
    rcases mem_head?_append_line hHead with hHead | hLine
    · exact h.slash hKind hHead
    · cases hLine
  position := h.position

/- A line end with the trivia before it. -/
def Stretch.lineEnd (before gap : List Char) : Stretch :=
  ⟨gap, ['\n'], ⟨.newline, "\n", .behind (before ++ gap)⟩⟩

/- A line end fits behind trivia. -/
theorem Stretch.fits_lineEnd
    {gap : List Char}
    (before back : List Char)
    (h : Trivia [] gap) :
    (lineEnd before gap).Fits before back where
  gap := h.append_line back
  spelled := by
    simpa [lineEnd] using spelled_newline back
  slash hKind := by cases hKind
  position := rfl

------------------------------------------------------------
-- Lines
------------------------------------------------------------

/-
  The stretches of a text and a line end are read in front of
  any other text.
-/
theorem Cursor.tokens_append_line
    {before front gap : List Char}
    {stretches : List Stretch}
    (h : Splits before front stretches gap)
    (back : List Char) :
    (Cursor.mk (.behind before)
        (front ++ '\n' :: back)).tokens =
      (Cursor.mk (.behind (before ++ front ++ ['\n']))
          back).tokens.map
        fun more =>
          stretches.map (·.token) ++
            ⟨.newline, "\n", .behind (before ++ front)⟩ ::
              more := by
  induction stretches generalizing before front with
  | nil =>
      rcases Splits.nil_iff.mp h with ⟨rfl, hGap⟩
      have hLine :
          (Cursor.mk (.behind before)
              (front ++ '\n' :: back)).next =
            (.ok (Stretch.lineEnd before front).token,
              ⟨.behind (before ++ front ++ ['\n']), back⟩) := by
        apply next_of_stretch rfl
        · simp [Stretch.lineEnd, Stretch.chars]
        · exact Stretch.fits_lineEnd before back hGap
        · simp [Stretch.lineEnd, Stretch.chars]
      exact tokens_of_token hLine (by simp)
  | cons s stretches ih =>
      rcases Splits.cons_iff.mp h with
        ⟨rest, rfl, hFits, hMore⟩
      have hToken :
          (Cursor.mk (.behind before)
              (s.chars ++ rest ++ '\n' :: back)).next =
            (.ok s.token,
              ⟨.behind (before ++ s.chars),
                rest ++ '\n' :: back⟩) :=
        next_of_stretch rfl (List.append_assoc _ _ _)
          (hFits.append_line back) rfl
      rw [tokens_of_token hToken hFits.spelled.shape.ne_finish,
        ih hMore, ← List.append_assoc before]
      cases
        (Cursor.mk
          (.behind (before ++ s.chars ++ rest ++ ['\n']))
          back).tokens <;> rfl

/- The number of lines of a text. -/
def lineCount (text : String) : Nat :=
  text.toList.count '\n' + 1

/- The next line begins below all lines of the text. -/
theorem behind_line (text : String) :
    Position.behind (text.toList ++ ['\n']) =
      Position.start.down (lineCount text) := by
  simp [Position.behind, Position.down, Position.start,
    lineCount]

/-
  Behind a line end the tokens and the errors of a text are as
  they are alone, below the lines of what comes first; the line
  end itself is a token where the first text would end.
-/
theorem tokenize_append_line
    {first : String}
    {tokens : List Token}
    (h : tokenize first = .ok tokens)
    (second : String) :
    ∃ body stop,
      tokens = body ++ [stop] ∧
        stop.kind = .finish ∧
        (∀ t ∈ body, t.kind ≠ .finish) ∧
        (∀ more, tokenize second = .ok more →
          tokenize (first ++ "\n" ++ second) =
            .ok
              (body ++
                ⟨.newline, "\n", stop.position⟩ ::
                  more.map (Token.down (lineCount first)))) ∧
        (∀ e, tokenize second = .error e →
          tokenize (first ++ "\n" ++ second) =
            .error (e.down (lineCount first))) := by
  rcases (tokenize_eq_ok_iff_splits first tokens).mp h with
    ⟨stretches, gap, hSplits, hTokens⟩
  have hBehind :
      (Cursor.mk (.behind ([] ++ first.toList ++ ['\n']))
          second.toList) =
        (Cursor.ofText second).down (lineCount first) := by
    rw [List.nil_append, behind_line]
    rfl
  have hWhole :
      Cursor.ofText (first ++ "\n" ++ second) =
        ⟨.behind [],
          first.toList ++ '\n' :: second.toList⟩ := by
    simp [Cursor.ofText]
    rfl
  have hAll :=
    Cursor.tokens_append_line hSplits second.toList
  rw [hBehind, ← hWhole, Cursor.tokens_down] at hAll
  refine
    ⟨stretches.map (·.token), _, hTokens, rfl, ?_, ?_, ?_⟩
  · intro t hT
    rcases List.mem_map.mp hT with ⟨s, hS, rfl⟩
    rcases List.append_of_mem hS with ⟨front, back, hParts⟩
    have hFits := hSplits.fits front s back hParts
    exact hFits.spelled.shape.ne_finish
  · intro more hMore
    rw [← tokenize, ← tokenize, hMore] at hAll
    exact hAll
  · intro e hError
    rw [← tokenize, ← tokenize, hError] at hAll
    exact hAll

/-
  Two signs on two lines do not become one, and a fault keeps
  its column.
-/
theorem tokenize_append_line_signs :
    tokenize ("x <" ++ "\n" ++ "=1") =
        .ok
          [⟨.identifier, "x", ⟨1, 1⟩⟩,
           ⟨.symbol .less, "<", ⟨1, 3⟩⟩,
           ⟨.newline, "\n", ⟨1, 4⟩⟩,
           ⟨.symbol .assign, "=", ⟨2, 1⟩⟩,
           ⟨.number, "1", ⟨2, 2⟩⟩,
           ⟨.finish, "", ⟨2, 3⟩⟩] ∧
      tokenize ("x <" ++ "\n" ++ "1 \"\\") =
        .error ⟨.danglingEscape, ⟨2, 5⟩⟩ := by
  have hFirst :
      tokenize "x <" =
        .ok
          [⟨.identifier, "x", ⟨1, 1⟩⟩,
           ⟨.symbol .less, "<", ⟨1, 3⟩⟩,
           ⟨.finish, "", ⟨1, 4⟩⟩] := by
    decide +kernel
  have hSecond :
      tokenize "=1" =
        .ok
          [⟨.symbol .assign, "=", ⟨1, 1⟩⟩,
           ⟨.number, "1", ⟨1, 2⟩⟩,
           ⟨.finish, "", ⟨1, 3⟩⟩] := by
    decide +kernel
  have hFault :
      tokenize "1 \"\\" =
        .error ⟨.danglingEscape, ⟨1, 5⟩⟩ := by
    decide +kernel
  constructor
  · rcases tokenize_append_line hFirst "=1" with
      ⟨body, stop, hTokens, hStop, hBody, hMore, hError⟩
    rw [hMore _ hSecond]
    rcases @List.append_inj' _ [_, _] _ _ _ hTokens rfl with
      ⟨rfl, hLast⟩
    cases hLast
    rfl
  · rcases tokenize_append_line hFirst "1 \"\\" with
      ⟨body, stop, hTokens, hStop, hBody, hMore, hError⟩
    exact hError _ hFault

end Rulebook
