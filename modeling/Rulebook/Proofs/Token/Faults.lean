import Mathlib.Data.List.Basic
import Rulebook.Proofs.Token.Lines

/-
  Where a text has no tokens, it breaks off at one place: what
  stands before this place is a text of the tokens that were
  read, and what stands behind it begins no token.

  Key definitions include:
    * `Breaks`

  Main results:
    * `breaks_of_ofChars`
    * `Stretch.Fits.of_append`
    * `Cursor.exists_breaks_of_next`
    * `Cursor.exists_splits_of_tokens`
    * `exists_breaks_of_tokenize`
-/

namespace Rulebook

------------------------------------------------------------
-- Bodies Without An End
------------------------------------------------------------

namespace Body

/- A body behind some characters stays open where it is. -/
theorem push_eq_unclosed_iff
    {chars body rest : List Char}
    {b : Body} :
    b.push chars = .unclosed body rest ↔
      ∃ more,
        b = .unclosed more rest ∧ chars ++ more = body := by
  cases b with
  | closed more behind => simp [push]
  | unclosed more behind =>
      simp only [push, unclosed.injEq]
      constructor
      · rintro ⟨hBody, rfl⟩
        exact ⟨more, ⟨rfl, rfl⟩, hBody⟩
      · rintro ⟨_, ⟨rfl, rfl⟩, hBody⟩
        exact ⟨hBody, rfl⟩
  | dangling more => simp [push]

/- A backslash that escapes nothing stays the last character. -/
theorem push_eq_dangling_iff
    {chars body : List Char}
    {b : Body} :
    b.push chars = .dangling body ↔
      ∃ more, b = .dangling more ∧ chars ++ more = body := by
  cases b <;> simp [push]

/-
  A body that stays open means something as far as it goes: no
  quote closes it before the line end or the end of the text.
-/
theorem means_of_unclosed
    {chars body rest : List Char}
    (h : ofChars chars = .unclosed body rest) :
    (∃ contents, Quoted.Means body contents) ∧
      ∀ c ∈ rest.head?, c = '\n' := by
  fun_induction ofChars chars generalizing body with
  | case1 =>
      cases h
      exact ⟨⟨[], .nil⟩, by simp⟩
  | case2 => cases h
  | case3 c chars ih =>
      rcases push_eq_unclosed_iff.mp h with ⟨more, hMore, rfl⟩
      rcases ih hMore with ⟨⟨contents, hMeans⟩, hRest⟩
      exact ⟨⟨_, .escaped hMeans⟩, hRest⟩
  | case4 => cases h
  | case5 chars =>
      cases h
      exact ⟨⟨[], .nil⟩, by simp⟩
  | case6 c chars hAlone hSlash hQuote hLine ih =>
      rcases push_eq_unclosed_iff.mp h with ⟨more, hMore, rfl⟩
      rcases ih hMore with ⟨⟨contents, hMeans⟩, hRest⟩
      have hPlain : c ≠ '\\' := ne_backslash hAlone hSlash
      exact
        ⟨⟨_, .plain ⟨hQuote, hPlain, hLine⟩ hMeans⟩, hRest⟩

/- A text that ends behind a backslash means something so far. -/
theorem means_of_dangling
    {chars body : List Char}
    (h : ofChars chars = .dangling body) :
    ∃ inner contents,
      body = inner ++ ['\\'] ∧
        Quoted.Means inner contents := by
  fun_induction ofChars chars generalizing body with
  | case1 => cases h
  | case2 =>
      cases h
      exact ⟨[], [], rfl, .nil⟩
  | case3 c chars ih =>
      rcases push_eq_dangling_iff.mp h with ⟨more, hMore, rfl⟩
      rcases ih hMore with ⟨inner, contents, rfl, hMeans⟩
      exact ⟨_, _, rfl, .escaped hMeans⟩
  | case4 => cases h
  | case5 => cases h
  | case6 c chars hAlone hSlash hQuote hLine ih =>
      rcases push_eq_dangling_iff.mp h with ⟨more, hMore, rfl⟩
      rcases ih hMore with ⟨inner, contents, rfl, hMeans⟩
      have hPlain : c ≠ '\\' := ne_backslash hAlone hSlash
      exact
        ⟨_, _, rfl, .plain ⟨hQuote, hPlain, hLine⟩ hMeans⟩

end Body

------------------------------------------------------------
-- Breaks
------------------------------------------------------------

/-
  A fault at the start of a text, with the characters that are
  passed before it is noticed and those that are left.
    * `loneBang`: an exclamation mark without an equals sign;
    * `unknownChar`: a character that begins neither a token nor
      trivia;
    * `openString`: a quote, and a line end or the end of the
      text before an unescaped quote;
    * `danglingEscape`: a quote, and the end of the text behind
      a backslash that escapes, with neither an unescaped quote
      nor a line end between them.
-/
inductive Breaks :
    LexFault → List Char → List Char → Prop where
  | loneBang
      {rest : List Char}
      (hNext : rest.head? ≠ some '=') :
      Breaks .loneBang [] ('!' :: rest)
  | unknownChar
      {c : Char}
      {rest : List Char}
      (hTrivia : c ∉ triviaStarts)
      (hToken :
        ∀ kind lexeme spelling more,
          ¬ Spelled kind lexeme (c :: spelling) more) :
      Breaks (.unknownChar c) [] (c :: rest)
  | openString
      {body contents rest : List Char}
      (hBody : Quoted.Means body contents)
      (hRest : ∀ c ∈ rest.head?, c = '\n') :
      Breaks .openString ('"' :: body) rest
  | danglingEscape
      {body contents : List Char}
      (hBody : Quoted.Means body contents) :
      Breaks .danglingEscape ('"' :: body ++ ['\\']) []

/- Only a dangling escape is placed at its end. -/
theorem LexFault.isAtEnd_iff
    {fault : LexFault} :
    fault.isAtEnd = true ↔ fault = .danglingEscape := by
  cases fault <;> simp [isAtEnd]

/- Nothing is left behind it. -/
theorem Breaks.rest_eq_nil
    {passed rest : List Char}
    (h : Breaks .danglingEscape passed rest) : rest = [] := by
  cases h
  rfl

/- A sign that is no symbol begins no token. -/
theorem not_spelled_of_sign
    {c : Char}
    {kind : TokenKind}
    {lexeme spelling more : List Char}
    (hLine : c ≠ '\n')
    (hQuote : c ≠ '"')
    (hStart : ¬ startsWord c = true)
    (hDigit : ¬ c.isDigit = true)
    (hSymbol : Symbol.ofChar? c = none)
    (hBang : c ≠ '!') :
    ¬ Spelled kind lexeme (c :: spelling) more := by
  intro hSpelled
  have hLonger :
      c ∈ ['=', '!', '>', '<'] →
        (spelling ++ more).head? ≠ some '=' := by
    intro hC
    simp only [List.mem_cons, List.not_mem_nil, or_false]
      at hC
    rcases hC with rfl | rfl | rfl | rfl
    · cases hSymbol
    · exact absurd rfl hBang
    · cases hSymbol
    · cases hSymbol
  have hPiece := hSpelled.ofChars_eq_spelled
  rw [List.cons_append, Piece.ofChars, if_neg hLine,
    if_neg hQuote, if_neg hStart, if_neg hDigit,
    ofSigns_of_ne hLonger, Piece.ofSign, hSymbol] at hPiece
  simp [hBang] at hPiece

/- Signs that are no token are read as a single one. -/
theorem ofSign_of_ofSigns_eq_faulty
    {c : Char}
    {chars passed rest : List Char}
    {fault : LexFault}
    (h : Piece.ofSigns c chars = .faulty fault passed rest) :
    Piece.ofSign c chars = .faulty fault passed rest ∧
      ∀ d ∈ chars.head?, Symbol.ofPair? c d = none := by
  unfold Piece.ofSigns at h
  split at h
  · exact ⟨h, by simp⟩
  · split at h
    · cases h
    · rename_i d chars hNone
      refine ⟨h, ?_⟩
      rintro d ⟨⟩
      exact hNone

/- Behind the trivia no further spacing follows. -/
theorem isSpacing_afterTrivia (chars : List Char) :
    ∀ c ∈ (afterTrivia chars).head?, isSpacing c = false := by
  intro c hC
  unfold afterTrivia afterComment at hC
  split at hC
  · have hLine := head?_dropWhile_outside c hC
    simp only [bne_eq_false_iff_eq] at hLine
    rw [hLine]
    rfl
  · exact head?_dropWhile_outside c hC

/- Where neither spacing nor a comment starts, all is left. -/
theorem afterTrivia_eq_self
    {chars : List Char}
    (hSpacing : ∀ c ∈ chars.head?, isSpacing c = false)
    (hComment : startsComment chars = false) :
    afterTrivia chars = chars := by
  have hBlanks : chars.dropWhile isSpacing = chars :=
    @dropWhile_run _ isSpacing [] chars (by simp) hSpacing
  rw [afterTrivia, hBlanks, afterComment,
    if_neg (by simp [hComment])]

/-
  Where neither spacing nor a comment starts, only a slash could
  start trivia, and it is a symbol.
-/
theorem not_mem_triviaStarts
    {c : Char}
    {chars : List Char}
    (hSpacing : isSpacing c = false)
    (hComment : startsComment (c :: chars) = false)
    (hSymbol : Symbol.ofChar? c = none) :
    c ∉ triviaStarts := by
  intro hMember
  simp only [triviaStarts, List.mem_cons, List.not_mem_nil,
    or_false] at hMember
  rcases hMember with rfl | rfl | rfl | rfl | rfl
  · cases hSpacing
  · cases hSpacing
  · cases hSpacing
  · cases hComment
  · cases hSymbol

/- A literal that is not closed breaks the text off. -/
theorem breaks_of_ofBody
    {chars passed rest : List Char}
    {fault : LexFault}
    (h :
      Piece.ofBody (Body.ofChars chars) =
        .faulty fault passed rest) :
    Breaks fault passed rest := by
  cases hBody : Body.ofChars chars with
  | closed body behind =>
      rw [hBody] at h
      cases h
  | unclosed body behind =>
      rw [hBody] at h
      cases h
      rcases Body.means_of_unclosed hBody with
        ⟨⟨contents, hMeans⟩, hRest⟩
      exact .openString hMeans hRest
  | dangling body =>
      rw [hBody] at h
      cases h
      rcases Body.means_of_dangling hBody with
        ⟨inner, contents, rfl, hMeans⟩
      exact .danglingEscape hMeans

/- Every piece that is faulty breaks the text off. -/
theorem breaks_of_ofChars
    {chars passed rest : List Char}
    {fault : LexFault}
    (hSpacing : ∀ c ∈ chars.head?, isSpacing c = false)
    (hComment : startsComment chars = false)
    (h : Piece.ofChars chars = .faulty fault passed rest) :
    Breaks fault passed rest := by
  unfold Piece.ofChars at h
  split at h
  · cases h
  · rename_i c chars
    split at h
    · cases h
    rename_i hLine
    split at h
    · exact breaks_of_ofBody h
    rename_i hQuote
    split at h
    · cases h
    rename_i hStart
    split at h
    · cases h
    rename_i hDigit
    rcases ofSign_of_ofSigns_eq_faulty h with ⟨hSign, hPair⟩
    unfold Piece.ofSign at hSign
    split at hSign
    · cases hSign
    rename_i hSymbol
    split at hSign
    · rename_i hBang
      cases hSign
      rw [hBang] at hPair ⊢
      refine .loneBang fun hNext => ?_
      have hNone := hPair '=' hNext
      cases hNone
    · rename_i hBang
      cases hSign
      exact
        .unknownChar
          (not_mem_triviaStarts (hSpacing c rfl) hComment
            hSymbol)
          fun _ _ _ _ =>
            not_spelled_of_sign hLine hQuote hStart hDigit
              hSymbol hBang

------------------------------------------------------------
-- Before A Break
------------------------------------------------------------

/- What ends before a longer rest also ends before its start. -/
theorem EndsToken.of_append
    {kind : TokenKind}
    {lexeme rest back : List Char}
    (h : EndsToken kind lexeme (rest ++ back)) :
    EndsToken kind lexeme rest where
  word hKind c hC :=
    h.word hKind c (List.mem_head?_append_of_mem_head? hC)
  digit hKind c hC :=
    h.digit hKind c (List.mem_head?_append_of_mem_head? hC)
  fraction hKind hPoint d more hRest :=
    h.fraction hKind hPoint d (more ++ back) (by rw [hRest]; rfl)
  equals hKind hHead :=
    h.equals hKind (List.mem_head?_append_of_mem_head? hHead)

theorem Spelled.of_append
    {kind : TokenKind}
    {lexeme spelling rest back : List Char}
    (h : Spelled kind lexeme spelling (rest ++ back)) :
    Spelled kind lexeme spelling rest where
  shape := h.shape
  plain := h.plain
  literal := h.literal
  keyword := h.keyword
  ends := h.ends.of_append

/- Trivia does not need what follows it. -/
theorem Trivia.of_append
    {rest back gap : List Char}
    (h : Trivia (rest ++ back) gap) : Trivia rest gap := by
  cases h with
  | blanks hBlanks => exact .blanks hBlanks
  | comment hBlanks hSign hBody hRest =>
      exact
        .comment hBlanks hSign hBody fun c hC =>
          hRest c (List.mem_head?_append_of_mem_head? hC)

/- A stretch still fits where the text ends earlier. -/
theorem Stretch.Fits.of_append
    {s : Stretch}
    {before rest back : List Char}
    (h : s.Fits before (rest ++ back)) :
    s.Fits before rest where
  gap := by
    have hGap := h.gap
    rw [← List.append_assoc] at hGap
    exact hGap.of_append
  spelled := h.spelled.of_append
  slash hKind hHead :=
    h.slash hKind (List.mem_head?_append_of_mem_head? hHead)
  position := h.position

------------------------------------------------------------
-- Cursors
------------------------------------------------------------

namespace Cursor

variable {cursor behind : Cursor}
variable {before : List Char}
variable {e : LexError}

/-
  Where there is no next token, the text breaks off behind the
  trivia, and the cursor goes on behind what was passed.
-/
theorem exists_breaks_of_next
    (hPlace : cursor.position = .behind before)
    (hNext : cursor.next = (.error e, behind)) :
    ∃ gap passed,
      cursor.rest = gap ++ (passed ++ behind.rest) ∧
        Trivia (passed ++ behind.rest) gap ∧
        Breaks e.fault passed behind.rest ∧
        behind.position = .behind (before ++ gap ++ passed) ∧
        e.position =
          if e.fault.isAtEnd then behind.position
          else .behind (before ++ gap) := by
  have hTrivia := trivia_of_chars cursor.rest
  have hWhole := trivia_append_afterTrivia cursor.rest
  have hSource :=
    Piece.source_ofChars (afterTrivia cursor.rest)
  rw [next_eq_take, skipTrivia, hPlace,
    Position.after_behind] at hNext
  cases hPiece : Piece.ofChars (afterTrivia cursor.rest) with
  | nothing =>
      rw [hPiece] at hNext
      simp [take] at hNext
  | spelled kind lexeme spelling rest =>
      rw [hPiece] at hNext
      simp [take] at hNext
  | faulty fault passed rest =>
      have hBreaks :=
        breaks_of_ofChars (isSpacing_afterTrivia _)
          (startsComment_afterTrivia _) hPiece
      rw [hPiece] at hNext hSource
      rw [← hSource] at hTrivia hWhole
      cases hNext
      exact
        ⟨trivia cursor.rest, passed, hWhole.symm, hTrivia,
          hBreaks, Position.after_behind _ _, rfl⟩

/-
  Where there are not all tokens, stretches that fit come first,
  then trivia, and then the text breaks off.  These stretches
  are the results before the error.
-/
theorem exists_splits_of_tokens
    (hPlace : cursor.position = .behind before)
    (h : cursor.tokens = .error e) :
    ∃ stretches gap front passed rest,
      cursor.rest = front ++ (passed ++ rest) ∧
        Splits before front stretches gap ∧
        Breaks e.fault passed rest ∧
        (e.position =
          if e.fault.isAtEnd then
            .behind (before ++ front ++ passed)
          else .behind (before ++ front)) ∧
        results (stretches.length + 1) cursor =
          stretches.map (.ok ·.token) ++ [.error e] := by
  fun_induction Cursor.tokens cursor generalizing before with
  | case1 cursor e behind hNext =>
      cases h
      rcases exists_breaks_of_next hPlace hNext with
        ⟨gap, passed, hWhole, hTrivia, hBreaks, hBehind,
          hPosition⟩
      rw [hBehind] at hPosition
      refine
        ⟨[], gap, gap, passed, behind.rest, hWhole,
          Splits.nil_iff.mpr ⟨rfl, ?_⟩, hBreaks, hPosition,
          ?_⟩
      · exact Trivia.of_append hTrivia
      · rw [results, hNext]
        rfl
  | case2 cursor t behind hNext hKind => cases h
  | case3 cursor t behind hNext hKind ih =>
      rcases (next_eq_token_iff hPlace).mp ⟨hNext, hKind⟩ with
        ⟨s, hToken, hWhole, hFits, hBehind⟩
      rcases ih hBehind (map_eq_error_iff.mp h) with
        ⟨stretches, gap, front, passed, rest, hRest, hSplits,
          hBreaks, hPosition, hResults⟩
      -- The stretch fits before all that follows, so it fits
      -- before the part of it that is not broken off, too.
      rw [hRest] at hWhole hFits
      rw [List.append_assoc before] at hPosition
      refine
        ⟨s :: stretches, gap, s.chars ++ front, passed, rest,
          ?_, ?_, hBreaks, hPosition, ?_⟩
      · rw [hWhole, List.append_assoc]
      · exact
          Splits.cons_iff.mpr
            ⟨front, rfl, hFits.of_append, hSplits⟩
      · rw [List.length_cons, results, hNext, hResults,
          ← hToken]
        rfl

end Cursor

------------------------------------------------------------
-- Texts
------------------------------------------------------------

/-
  A text without tokens is a text of the tokens that were read
  before the error, and behind it one that breaks off.  The
  error is placed where it breaks off, but a dangling escape at
  the end.
-/
theorem exists_breaks_of_tokenize
    {text : String}
    {e : LexError}
    (h : tokenize text = .error e) :
    ∃ front tokens passed rest,
      text.toList = front.toList ++ (passed ++ rest) ∧
        tokenize front =
          .ok
            (tokens ++
              [⟨.finish, "", .behind front.toList⟩]) ∧
        (Cursor.ofText text).results (tokens.length + 1) =
          tokens.map .ok ++ [.error e] ∧
        Breaks e.fault passed rest ∧
        e.position =
          if e.fault = .danglingEscape then
            .behind text.toList
          else .behind front.toList := by
  have hStart : (Cursor.ofText text).position = .behind [] :=
    rfl
  rcases Cursor.exists_splits_of_tokens hStart h with
    ⟨stretches, gap, front, passed, rest, hWhole, hSplits,
      hBreaks, hPosition, hResults⟩
  refine
    ⟨String.ofList front, stretches.map (·.token), passed,
      rest, ?_, ?_, ?_, hBreaks, ?_⟩
  · rw [String.toList_ofList]
    exact hWhole
  · rw [tokenize_eq_ok_iff_splits, String.toList_ofList]
    exact ⟨stretches, gap, hSplits, rfl⟩
  · rw [List.length_map, hResults, List.map_map]
    rfl
  · rw [hPosition, String.toList_ofList]
    simp only [LexFault.isAtEnd_iff, List.nil_append]
    split
    · rename_i hEscape
      rw [hEscape] at hBreaks
      have hText : text.toList = front ++ passed := by
        rw [hBreaks.rest_eq_nil, List.append_nil] at hWhole
        exact hWhole
      rw [hText]
    · rfl

/-
  An escaped quote closes nothing, so that the literal is open
  up to the end of its line, and the tokens before it stay.
-/
theorem exists_breaks_of_tokenize_open_string :
    ∃ front tokens passed rest,
      "# a\nx <= 1. \"b\\\" \nc".toList =
          String.toList front ++ (passed ++ rest) ∧
        tokenize front =
          .ok
            (tokens ++
              [⟨.finish, "", .behind front.toList⟩]) ∧
        (Cursor.ofText "# a\nx <= 1. \"b\\\" \nc").results
            (tokens.length + 1) =
          tokens.map .ok ++ [.error ⟨.openString, ⟨2, 9⟩⟩] ∧
        Breaks .openString passed rest ∧
        (⟨2, 9⟩ : Position) = .behind front.toList := by
  have hError :
      tokenize "# a\nx <= 1. \"b\\\" \nc" =
        .error ⟨.openString, ⟨2, 9⟩⟩ := by
    decide +kernel
  exact exists_breaks_of_tokenize hError

end Rulebook
