import Rulebook.Proofs.Results
import Rulebook.Proofs.Token.Longest
import Rulebook.Token.Cursor

/-
  A text is split into tokens in one way: trivia, a spelling,
  trivia, and so on up to the end, where no spelling could have
  been longer.

  Key definitions include:
    * `Position.behind`
    * `Trivia`
    * `Stretch`
    * `Stretch.Fits`
    * `Splits`

  Main results:
    * `Position.after_behind`
    * `Cursor.next_eq_token_iff`
    * `Cursor.tokens_eq_ok_iff`
    * `tokenize_eq_ok_iff_splits`
-/

namespace Rulebook

------------------------------------------------------------
-- Places
------------------------------------------------------------

namespace Position

/-
  The place behind the start of a text, counted at once: lines
  by the line ends, columns by the characters since the last.
-/
def behind (chars : List Char) : Position :=
  ⟨1 + chars.count '\n',
    1 + (chars.reverse.takeWhile (· != '\n')).length⟩

/- One character more is one step. -/
theorem step_behind
    (chars : List Char)
    (c : Char) :
    (behind chars).step c = behind (chars ++ [c]) := by
  unfold behind step
  by_cases hLine : c = '\n'
  · simp [hLine, Nat.add_assoc]
  · simp [hLine, Nat.add_comm]

/- Counting goes on from any place. -/
theorem after_behind
    (before chars : List Char) :
    (behind before).after chars =
      behind (before ++ chars) := by
  induction chars generalizing before with
  | nil => simp
  | cons c chars ih =>
      rw [after_cons, step_behind, ih, List.append_assoc,
        List.singleton_append]

end Position

------------------------------------------------------------
-- Trivia
------------------------------------------------------------

/-
  Trivia in front of a rest: blanks, and a comment behind them.
  Only a line end or the end of the text ends a comment.
-/
inductive Trivia
    (rest : List Char) : List Char → Prop where
  | blanks
      {blanks : List Char}
      (hBlanks : ∀ c ∈ blanks, c ∈ [' ', '\t', '\r']) :
      Trivia rest blanks
  | comment
      {blanks sign body : List Char}
      (hBlanks : ∀ c ∈ blanks, c ∈ [' ', '\t', '\r'])
      (hSign : sign = ['#'] ∨ sign = ['/', '/'])
      (hBody : '\n' ∉ body)
      (hRest : ∀ c ∈ rest.head?, c = '\n') :
      Trivia rest (blanks ++ (sign ++ body))

/- Spacing is one of three characters. -/
theorem isSpacing_iff
    {c : Char} :
    isSpacing c = true ↔ c ∈ [' ', '\t', '\r'] := by
  simp [isSpacing, or_assoc]

/- A comment starts with one of two signs. -/
theorem startsComment_iff
    {chars : List Char} :
    startsComment chars = true ↔
      ∃ sign more,
        (sign = ['#'] ∨ sign = ['/', '/']) ∧
          '\n' ∉ sign ∧ chars = sign ++ more := by
  constructor
  · intro h
    unfold startsComment at h
    split at h
    · exact ⟨['#'], _, .inl rfl, by decide, rfl⟩
    · exact ⟨['/', '/'], _, .inr rfl, by decide, rfl⟩
    · cases h
  · rintro ⟨sign, more, hSign | hSign, -, rfl⟩
    · rw [hSign]
      rfl
    · rw [hSign]
      rfl

/- What is skipped at the start of a text is trivia. -/
theorem trivia_of_chars (chars : List Char) :
    Trivia (afterTrivia chars) (trivia chars) := by
  have hBlanks :
      ∀ c ∈ chars.takeWhile isSpacing,
        c ∈ [' ', '\t', '\r'] :=
    fun c hC => isSpacing_iff.mp (of_mem_takeWhile c hC)
  unfold trivia afterTrivia comment afterComment
  generalize chars.dropWhile isSpacing = more
  by_cases hComment : startsComment more = true
  · rw [if_pos hComment, if_pos hComment]
    rcases startsComment_iff.mp hComment with
      ⟨sign, body, hSign, hLine, rfl⟩
    have hInside : ∀ c ∈ sign, (c != '\n') = true := by
      intro c hC
      simpa using ne_of_mem_of_not_mem hC hLine
    rw [List.takeWhile_append_of_pos hInside]
    apply Trivia.comment hBlanks hSign
    · intro hBody
      simpa using of_mem_takeWhile _ hBody
    · intro c hC
      simpa using head?_dropWhile_outside c hC
  · rw [if_neg hComment, if_neg hComment, List.append_nil]
    exact .blanks hBlanks

/- Behind the trivia no comment starts. -/
theorem startsComment_afterTrivia (chars : List Char) :
    startsComment (afterTrivia chars) = false := by
  unfold afterTrivia afterComment
  generalize chars.dropWhile isSpacing = more
  by_cases hComment : startsComment more = true
  · rw [if_pos hComment]
    cases hRest : more.dropWhile (· != '\n') with
    | nil => rfl
    | cons c rest =>
        have hLine :=
          head?_dropWhile_outside c (by rw [hRest]; rfl)
        simp at hLine
        rw [hLine]
        rfl
  · rw [if_neg hComment]
    simpa using hComment

/- Trivia is skipped up to where there is no more of it. -/
theorem Trivia.afterTrivia_append
    {rest gap : List Char}
    (h : Trivia rest gap)
    (hRest : afterTrivia rest = rest) :
    afterTrivia (gap ++ rest) = rest := by
  cases h with
  | blanks hBlanks =>
      unfold afterTrivia
      rw [List.dropWhile_append_of_pos]
      · exact hRest
      · exact fun c hC => isSpacing_iff.mpr (hBlanks c hC)
  | @comment blanks sign body hBlanks hSign hBody hEnd =>
      have hComment :
          startsComment (sign ++ (body ++ rest)) = true := by
        rcases hSign with rfl | rfl <;> rfl
      have hNoBlank :
          (sign ++ (body ++ rest)).dropWhile isSpacing =
            sign ++ (body ++ rest) := by
        rcases hSign with rfl | rfl <;> rfl
      have hInside :
          ∀ c ∈ sign ++ body, (c != '\n') = true := by
        intro c hC
        have hLine : '\n' ∉ sign ++ body := by
          rcases hSign with rfl | rfl <;> simp [hBody]
        simpa using ne_of_mem_of_not_mem hC hLine
      have hOutside :
          ∀ c ∈ rest.head?, (c != '\n') = false := by
        intro c hC
        simp [hEnd c hC]
      unfold afterTrivia afterComment
      rw [List.append_assoc, List.dropWhile_append_of_pos,
        List.append_assoc, hNoBlank, if_pos hComment,
        ← List.append_assoc, dropWhile_run hInside hOutside]
      exact fun c hC => isSpacing_iff.mpr (hBlanks c hC)

/- The characters that trivia can start with. -/
def triviaStarts : List Char :=
  [' ', '\t', '\r', '#', '/']

/- A text has no trivia where its first character is none. -/
theorem afterTrivia_cons
    {c : Char}
    {chars : List Char}
    (hFirst : c ∉ triviaStarts) :
    afterTrivia (c :: chars) = c :: chars := by
  simp only [triviaStarts, List.mem_cons, List.not_mem_nil,
    or_false, not_or] at hFirst
  rcases hFirst with ⟨hBlank, hTab, hReturn, hHash, hSlash⟩
  have hSpacing : isSpacing c = false := by
    simp [isSpacing, hBlank, hTab, hReturn]
  have hComment : startsComment (c :: chars) = false := by
    simp [startsComment, hHash, hSlash]
  rw [afterTrivia,
    List.dropWhile_cons_of_neg (by simp [hSpacing]),
    afterComment, if_neg (by simp [hComment])]

/- Trivia does not start inside a class it is no part of. -/
theorem afterTrivia_of_inClass
    {inClass : Char → Bool}
    {c : Char}
    {chars : List Char}
    (hC : inClass c = true)
    (hTrivia : triviaStarts.any inClass = false) :
    afterTrivia (c :: chars) = c :: chars := by
  apply afterTrivia_cons
  intro hMember
  have hInside : triviaStarts.any inClass = true :=
    List.any_eq_true.mpr ⟨c, hMember, hC⟩
  rw [hTrivia] at hInside
  cases hInside

/- A lone slash is no trivia. -/
theorem afterTrivia_slash
    {chars : List Char}
    (h : chars.head? ≠ some '/') :
    afterTrivia ('/' :: chars) = '/' :: chars := by
  have hComment : startsComment ('/' :: chars) = false := by
    cases chars with
    | nil => rfl
    | cons c chars =>
        have hSlash : c ≠ '/' := by simpa using h
        simp [startsComment, hSlash]
  rw [afterTrivia,
    List.dropWhile_cons_of_neg (by decide), afterComment,
    if_neg (by simp [hComment])]

/- The lexeme of a symbol is its spelling. -/
theorem Lexeme.eq_spelling
    {s : Symbol}
    {lexeme : List Char}
    (h : Lexeme (.symbol s) lexeme) : lexeme = s.spelling := by
  generalize hKind : TokenKind.symbol s = kind at h
  cases h with
  | symbol u =>
      cases hKind
      rfl
  | @word c chars hStart hMore =>
      have hWord := isWord_kindOfWord (c :: chars)
      rw [← hKind] at hWord
      cases hWord
  | _ => cases hKind

/- A slash that starts no comment has no second one behind it. -/
theorem Spelled.head?_ne_slash
    {lexeme spelling rest : List Char}
    (h : Spelled (.symbol .slash) lexeme spelling rest)
    (hComment : startsComment (spelling ++ rest) = false) :
    rest.head? ≠ some '/' := by
  intro hHead
  cases rest with
  | nil => cases hHead
  | cons c rest =>
      cases hHead
      rw [h.plain (by simp), h.shape.eq_spelling] at hComment
      cases hComment

/-
  There is no trivia before a spelling, unless a slash makes a
  comment with another one.
-/
theorem Spelled.afterTrivia_eq
    {kind : TokenKind}
    {lexeme spelling rest : List Char}
    (h : Spelled kind lexeme spelling rest)
    (hSlash :
      kind = .symbol .slash → rest.head? ≠ some '/') :
    afterTrivia (spelling ++ rest) = spelling ++ rest := by
  by_cases hString : kind = .string
  · rcases h.literal hString with ⟨body, rfl, hBody⟩
    exact afterTrivia_cons (by decide)
  · rw [h.plain hString]
    cases h.shape with
    | symbol s =>
        cases s with
        | slash => exact afterTrivia_slash (hSlash rfl)
        | _ => exact afterTrivia_cons (by decide)
    | word hStart hMore =>
        exact afterTrivia_of_inClass hStart (by decide)
    | whole hDigit hMore =>
        exact afterTrivia_of_inClass hDigit (by decide)
    | decimal hDigit hMore hPart hFraction =>
        exact afterTrivia_of_inClass hDigit (by decide)
    | string => exact absurd rfl hString
    | newline => exact afterTrivia_cons (by decide)

------------------------------------------------------------
-- Splits
------------------------------------------------------------

/-
  A token with the characters that spell it and the trivia that
  stands before them.
-/
structure Stretch where
  gap : List Char
  spelling : List Char
  token : Token

/- The characters of a stretch. -/
def Stretch.chars (s : Stretch) : List Char :=
  s.gap ++ s.spelling

/-
  A stretch between what comes before and behind it.  A slash
  is a token only where no second one makes it a comment.
-/
structure Stretch.Fits
    (s : Stretch)
    (before rest : List Char) : Prop where
  gap : Trivia (s.spelling ++ rest) s.gap
  spelled :
    Spelled s.token.kind s.token.lexeme.toList s.spelling rest
  slash :
    s.token.kind = .symbol .slash → rest.head? ≠ some '/'
  position :
    s.token.position = .behind (before ++ s.gap)

/-
  Characters behind others are stretches in a row, each fitting
  at its place, and trivia up to the end.
-/
structure Splits
    (before chars : List Char)
    (stretches : List Stretch)
    (gap : List Char) : Prop where
  whole : chars = stretches.flatMap Stretch.chars ++ gap
  last : Trivia [] gap
  fits :
    ∀ front s back,
      stretches = front ++ s :: back →
        s.Fits (before ++ front.flatMap Stretch.chars)
          (back.flatMap Stretch.chars ++ gap)

namespace Splits

variable {before chars gap : List Char}
variable {s : Stretch}
variable {stretches : List Stretch}

/- Without any stretch there is only trivia. -/
theorem nil_iff :
    Splits before chars [] gap ↔
      chars = gap ∧ Trivia [] gap := by
  constructor
  · intro h
    exact ⟨h.whole, h.last⟩
  · rintro ⟨hWhole, hGap⟩
    refine ⟨hWhole, hGap, ?_⟩
    intro front s back hSplit
    simp at hSplit

/- The first stretch fits, and the others go on behind it. -/
theorem cons_iff :
    Splits before chars (s :: stretches) gap ↔
      ∃ rest,
        chars = s.chars ++ rest ∧
          s.Fits before rest ∧
          Splits (before ++ s.chars) rest stretches gap := by
  constructor
  · intro h
    refine
      ⟨stretches.flatMap Stretch.chars ++ gap, ?_, ?_, rfl,
        h.last, ?_⟩
    · simpa using h.whole
    · simpa using h.fits [] s stretches rfl
    · intro front u back hSplit
      rw [hSplit] at h
      simpa using h.fits (s :: front) u back rfl
  · rintro ⟨rest, hWhole, hFits, hRest⟩
    refine ⟨?_, hRest.last, ?_⟩
    · rw [hWhole, hRest.whole]
      simp
    · intro front u back hSplit
      cases front with
      | nil =>
          cases hSplit
          rw [← hRest.whole]
          simpa using hFits
      | cons v front =>
          cases hSplit
          simpa using hRest.fits front u back rfl

end Splits

------------------------------------------------------------
-- Cursors
------------------------------------------------------------

namespace Cursor

variable {cursor behind : Cursor}
variable {before gap : List Char}
variable {t : Token}

/- The next token is the piece behind the trivia. -/
theorem next_eq_take (cursor : Cursor) :
    cursor.next =
      cursor.skipTrivia.take
        (Piece.ofChars (afterTrivia cursor.rest)) :=
  rfl

/- A next token is that of a stretch, unless it is the end. -/
theorem exists_stretch_of_next
    (hPlace : cursor.position = .behind before)
    (hNext : cursor.next = (.ok t, behind))
    (hKind : t.kind ≠ .finish) :
    ∃ s : Stretch,
      s.token = t ∧
        cursor.rest = s.chars ++ behind.rest ∧
        s.Fits before behind.rest ∧
        behind.position = .behind (before ++ s.chars) := by
  rw [next_eq_take, skipTrivia, hPlace,
    Position.after_behind] at hNext
  cases hPiece : Piece.ofChars (afterTrivia cursor.rest) with
  | nothing =>
      rw [hPiece] at hNext
      cases hNext
      exact absurd rfl hKind
  | faulty fault passed rest =>
      rw [hPiece] at hNext
      simp [take] at hNext
  | spelled kind lexeme spelling rest =>
      have hWhole :
          spelling ++ rest = afterTrivia cursor.rest := by
        have hSource :=
          Piece.source_ofChars (afterTrivia cursor.rest)
        rw [hPiece] at hSource
        exact hSource
      have hSpelled := spelled_of_ofChars hPiece
      rw [hPiece] at hNext
      cases hNext
      refine
        ⟨⟨trivia cursor.rest, spelling,
            ⟨kind, String.ofList lexeme, _⟩⟩,
          rfl, ?_, ?_, ?_⟩
      · simp only [Stretch.chars]
        rw [List.append_assoc, hWhole,
          trivia_append_afterTrivia]
      · refine ⟨?_, ?_, ?_, rfl⟩
        · rw [hWhole]
          exact trivia_of_chars cursor.rest
        · rw [String.toList_ofList]
          exact hSpelled
        · rintro rfl
          apply hSpelled.head?_ne_slash
          rw [hWhole]
          exact startsComment_afterTrivia cursor.rest
      · rw [Position.after_behind, List.append_assoc]
        rfl

/- The token of a stretch that fits is the next one. -/
theorem next_of_stretch
    {s : Stretch}
    (hPlace : cursor.position = .behind before)
    (hRest : cursor.rest = s.chars ++ behind.rest)
    (hFits : s.Fits before behind.rest)
    (hBehind :
      behind.position = .behind (before ++ s.chars)) :
    cursor.next = (.ok s.token, behind) := by
  have hAhead :
      afterTrivia cursor.rest = s.spelling ++ behind.rest := by
    rw [hRest, Stretch.chars, List.append_assoc]
    exact
      hFits.gap.afterTrivia_append
        (hFits.spelled.afterTrivia_eq hFits.slash)
  have hGap : trivia cursor.rest = s.gap := by
    apply List.append_cancel_right
    calc
      trivia cursor.rest ++ (s.spelling ++ behind.rest)
      _ = cursor.rest := by
          rw [← hAhead, trivia_append_afterTrivia]
      _ = s.gap ++ (s.spelling ++ behind.rest) := by
          rw [hRest, Stretch.chars, List.append_assoc]
  have hPosition :
      s.token.position.after s.spelling =
        behind.position := by
    rw [hFits.position, Position.after_behind,
      List.append_assoc, ← Stretch.chars, hBehind]
  rw [next_eq_take, skipTrivia, hPlace,
    Position.after_behind, hAhead,
    hFits.spelled.ofChars_eq_spelled, hGap, ← hFits.position]
  simp only [take, String.ofList_toList, hPosition]

/-
  The next token, unless it is the end, is that of a stretch
  that fits between what was read and what is left.
-/
theorem next_eq_token_iff
    (hPlace : cursor.position = .behind before) :
    cursor.next = (.ok t, behind) ∧ t.kind ≠ .finish ↔
      ∃ s : Stretch,
        s.token = t ∧
          cursor.rest = s.chars ++ behind.rest ∧
          s.Fits before behind.rest ∧
          behind.position = .behind (before ++ s.chars) := by
  constructor
  · rintro ⟨hNext, hKind⟩
    exact exists_stretch_of_next hPlace hNext hKind
  · rintro ⟨s, rfl, hRest, hFits, hBehind⟩
    exact
      ⟨next_of_stretch hPlace hRest hFits hBehind,
        hFits.spelled.shape.ne_finish⟩

/-
  The next token is the end of the text where only trivia is
  left.
-/
theorem next_eq_finish_iff
    (hPlace : cursor.position = .behind before) :
    (∃ behind, cursor.next = (.ok t, behind)) ∧
        t.kind = .finish ↔
      Trivia [] cursor.rest ∧
        t = ⟨.finish, "", .behind (before ++ cursor.rest)⟩ := by
  rw [next_eq_take, skipTrivia, hPlace,
    Position.after_behind]
  constructor
  · rintro ⟨⟨behind, hNext⟩, hKind⟩
    cases hPiece : Piece.ofChars (afterTrivia cursor.rest) with
    | nothing =>
        have hSource :=
          Piece.source_ofChars (afterTrivia cursor.rest)
        have hWhole := trivia_append_afterTrivia cursor.rest
        have hTrivia := trivia_of_chars cursor.rest
        rw [hPiece] at hNext hSource
        rw [← hSource, Piece.source, List.append_nil]
          at hWhole
        rw [← hSource, Piece.source, hWhole] at hTrivia
        rw [hWhole] at hNext
        cases hNext
        exact ⟨hTrivia, rfl⟩
    | faulty fault passed rest =>
        rw [hPiece] at hNext
        simp [take] at hNext
    | spelled kind lexeme spelling rest =>
        rw [hPiece] at hNext
        cases hNext
        exact
          absurd hKind (spelled_of_ofChars hPiece).shape.ne_finish
  · rintro ⟨hTrivia, rfl⟩
    have hNone : afterTrivia cursor.rest = [] := by
      simpa using hTrivia.afterTrivia_append rfl
    have hWhole := trivia_append_afterTrivia cursor.rest
    rw [hNone, List.append_nil] at hWhole
    rw [hNone, hWhole]
    exact ⟨⟨_, rfl⟩, rfl⟩

/- At the end of the text there are no further tokens. -/
theorem tokens_of_finish
    (h : cursor.next = (.ok t, behind))
    (hKind : t.kind = .finish) :
    cursor.tokens = .ok [t] := by
  rw [tokens]
  split
  · rename_i hNext
    rw [h] at hNext
    cases hNext
  · rename_i hNext
    rw [h] at hNext
    cases hNext
    rw [dif_pos hKind]

/- Before it, the tokens go on behind the next one. -/
theorem tokens_of_token
    (h : cursor.next = (.ok t, behind))
    (hKind : t.kind ≠ .finish) :
    cursor.tokens = behind.tokens.map (t :: ·) := by
  rw [tokens]
  split
  · rename_i hNext
    rw [h] at hNext
    cases hNext
  · rename_i hNext
    rw [h] at hNext
    cases hNext
    rw [dif_neg hKind]

/- The tokens of stretches that fit, and the end of the text. -/
theorem tokens_of_splits
    {stretches : List Stretch}
    (hPlace : cursor.position = .behind before)
    (hSplits : Splits before cursor.rest stretches gap) :
    cursor.tokens =
      .ok
        (stretches.map (·.token) ++
          [⟨.finish, "",
            .behind (before ++ cursor.rest)⟩]) := by
  induction stretches generalizing cursor before with
  | nil =>
      rcases Splits.nil_iff.mp hSplits with ⟨hGap, hTrivia⟩
      rw [← hGap] at hTrivia
      rcases (next_eq_finish_iff hPlace).mpr ⟨hTrivia, rfl⟩ with
        ⟨⟨behind, hNext⟩, hKind⟩
      exact tokens_of_finish hNext hKind
  | cons s stretches ih =>
      rcases Splits.cons_iff.mp hSplits with
        ⟨rest, hWhole, hFits, hMore⟩
      have hToken :
          cursor.next =
              (.ok s.token,
                ⟨.behind (before ++ s.chars), rest⟩) ∧
            s.token.kind ≠ .finish :=
        (next_eq_token_iff hPlace).mpr
          ⟨s, rfl, hWhole, hFits, rfl⟩
      rw [tokens_of_token hToken.1 hToken.2, ih rfl hMore,
        hWhole]
      simp [Except.map]

/-
  All tokens from a cursor on are those of stretches that fit,
  up to the end of the text.
-/
theorem tokens_eq_ok_iff
    {tokens : List Token}
    (hPlace : cursor.position = .behind before) :
    cursor.tokens = .ok tokens ↔
      ∃ stretches gap,
        Splits before cursor.rest stretches gap ∧
          tokens =
            stretches.map (·.token) ++
              [⟨.finish, "",
                .behind (before ++ cursor.rest)⟩] := by
  constructor
  · intro h
    fun_induction Cursor.tokens cursor
      generalizing before tokens with
    | case1 cursor e behind hNext => cases h
    | case2 cursor t behind hNext hKind =>
        cases h
        rcases
            (next_eq_finish_iff hPlace).mp
              ⟨⟨behind, hNext⟩, hKind⟩ with
          ⟨hTrivia, hToken⟩
        exact
          ⟨[], cursor.rest, Splits.nil_iff.mpr ⟨rfl, hTrivia⟩,
            by rw [hToken]; rfl⟩
    | case3 cursor t behind hNext hKind ih =>
        rcases map_eq_ok_iff.mp h with ⟨more, hMore, hTokens⟩
        rcases (next_eq_token_iff hPlace).mp ⟨hNext, hKind⟩ with
          ⟨s, hToken, hWhole, hFits, hBehind⟩
        rcases ih hBehind hMore with
          ⟨stretches, gap, hSplits, hRest⟩
        refine
          ⟨s :: stretches, gap,
            Splits.cons_iff.mpr
              ⟨behind.rest, hWhole, hFits, hSplits⟩,
            ?_⟩
        rw [← hTokens, hRest, hWhole, ← hToken]
        simp
  · rintro ⟨stretches, gap, hSplits, rfl⟩
    exact tokens_of_splits hPlace hSplits

end Cursor

------------------------------------------------------------
-- Texts
------------------------------------------------------------

/-
  Tokens are the tokens of a text if and only if the text is
  their spellings with trivia between them, where each spelling
  is the longest that fits: then each token is placed where its
  spelling begins, and the end of the text where it ends.
-/
theorem tokenize_eq_ok_iff_splits
    (text : String)
    (tokens : List Token) :
    tokenize text = .ok tokens ↔
      ∃ stretches gap,
        Splits [] text.toList stretches gap ∧
          tokens =
            stretches.map (·.token) ++
              [⟨.finish, "", .behind text.toList⟩] :=
  Cursor.tokens_eq_ok_iff rfl

/- What the tokens of a text are. -/
theorem lexemes_of_tokenize
    {text : String}
    {tokens : List Token}
    (h : tokenize text = .ok tokens) :
    ∃ body stop,
      tokens = body ++ [stop] ∧
        stop.kind = .finish ∧
        ∀ t ∈ body, Lexeme t.kind t.lexeme.toList := by
  have hStart : (Cursor.ofText text).position = .behind [] :=
    rfl
  rcases (Cursor.tokens_eq_ok_iff hStart).mp h with
    ⟨stretches, gap, hSplits, hTokens⟩
  refine ⟨_, _, hTokens, rfl, ?_⟩
  intro t hT
  rcases List.mem_map.mp hT with ⟨s, hS, rfl⟩
  rcases List.append_of_mem hS with ⟨front, back, hParts⟩
  exact (hSplits.fits front s back hParts).spelled.shape

end Rulebook
