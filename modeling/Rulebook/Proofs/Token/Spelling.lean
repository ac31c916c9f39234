import Rulebook.Proofs.Token.Split

/-
  The spellings of tokens, with blanks between them, are a text
  of the same tokens in one row.

  Key definitions include:
    * `Token.unplaced`
    * `written`
    * `Closes`
    * `StandsApart`
    * `inRow`

  Main results:
    * `Quoted.means_encode`
    * `spelled_written`
    * `Cursor.tokens_spellings`
    * `tokenize_spellingOfTokens_row`
    * `tokenize_spellingOfTokens`
-/

namespace Rulebook

------------------------------------------------------------
-- String Literals
------------------------------------------------------------

/- What is encoded between quotes means the text again. -/
theorem Quoted.means_encode (contents : List Char) :
    Means (encode contents) contents := by
  induction contents with
  | nil => exact .nil
  | cons c contents ih =>
      have hCons :
          encode (c :: contents) =
            escape c ++ encode contents :=
        rfl
      rw [hCons]
      unfold escape
      split
      case h_6 hQuote hSlash hLine _ _ =>
        exact .plain ⟨hQuote, hSlash, hLine⟩ ih
      all_goals exact .escaped ih

------------------------------------------------------------
-- Spellings
------------------------------------------------------------

/- The characters that a lexeme is written with. -/
def written
    (kind : TokenKind)
    (lexeme : List Char) : List Char :=
  if kind = .string then
    '"' :: Quoted.encode lexeme ++ ['"']
  else
    lexeme

/- The spelling of a token is its lexeme as it is written. -/
theorem toList_spelling (t : Token) :
    t.spelling.toList = written t.kind t.lexeme.toList := by
  unfold Token.spelling written
  split
  · exact String.toList_ofList
  · rfl

/- Nothing, a blank or a closing parenthesis comes first. -/
def Closes (rest : List Char) : Prop :=
  ∀ c ∈ rest.head?, c = ' ' ∨ c = ')'

/- No other character comes first. -/
theorem Closes.outside
    {rest : List Char}
    {inClass : Char → Bool}
    (h : Closes rest)
    (hBlank : inClass ' ' = false)
    (hParen : inClass ')' = false) :
    ∀ c ∈ rest.head?, inClass c = false := by
  intro c hC
  rcases h c hC with rfl | rfl
  · exact hBlank
  · exact hParen

/- Every token ends before such a rest. -/
theorem Closes.endsToken
    {kind : TokenKind}
    {lexeme rest : List Char}
    (h : Closes rest) : EndsToken kind lexeme rest where
  word _ := h.outside (by decide) (by decide)
  digit _ := h.outside (by decide) (by decide)
  fraction _ _ d more hFraction := by
    rw [hFraction] at h
    exact absurd (h '.' rfl) (by decide)
  equals _ hHead := absurd (h '=' hHead) (by decide)

/- Nothing or a blank comes first. -/
def StandsApart (rest : List Char) : Prop :=
  ∀ c ∈ rest.head?, c = ' '

/- What stands apart does not begin with another sign. -/
theorem StandsApart.head?_ne
    {rest : List Char}
    {c : Char}
    (h : StandsApart rest)
    (hC : c ≠ ' ') : rest.head? ≠ some c :=
  fun hHead => hC (h c hHead)

/- So every token ends before it. -/
theorem StandsApart.endsToken
    {kind : TokenKind}
    {lexeme rest : List Char}
    (h : StandsApart rest) : EndsToken kind lexeme rest := by
  have hCloses : Closes rest := fun c hC => .inl (h c hC)
  exact hCloses.endsToken

/- A lexeme that is written where it ends spells its token. -/
theorem spelled_written
    {kind : TokenKind}
    {lexeme rest : List Char}
    (h : Lexeme kind lexeme)
    (hEnds : EndsToken kind lexeme rest) :
    Spelled kind lexeme (written kind lexeme) rest where
  shape := h
  plain hKind := if_neg hKind
  literal hKind :=
    ⟨_, if_pos hKind, Quoted.means_encode lexeme⟩
  keyword hWord k := by
    cases h with
    | word hStart hMore => exact kindOfWord_eq_keyword_iff
    | _ => cases hWord
  ends := hEnds

/- A lexeme that is written apart has no trivia before it. -/
theorem afterTrivia_written
    {kind : TokenKind}
    {lexeme rest : List Char}
    (h : Lexeme kind lexeme)
    (hRest : StandsApart rest) :
    afterTrivia (written kind lexeme ++ rest) =
      written kind lexeme ++ rest :=
  (spelled_written h hRest.endsToken).afterTrivia_eq fun _ =>
    hRest.head?_ne (by decide)

/- A lexeme that is not that of a line end holds none. -/
theorem Lexeme.newline_not_mem
    {kind : TokenKind}
    {lexeme : List Char}
    (h : Lexeme kind lexeme)
    (hString : kind ≠ .string)
    (hLine : kind ≠ .newline) : '\n' ∉ lexeme := by
  have hDigits :
      ∀ digits : List Char,
        (∀ d ∈ digits, d.isDigit = true) → '\n' ∉ digits :=
    fun digits hAll hMember =>
      absurd (hAll _ hMember) (by decide)
  cases h with
  | symbol s => cases s <;> decide
  | @word c chars hStart hMore =>
      intro hMember
      rcases List.mem_cons.mp hMember with rfl | hMember
      · exact absurd hStart (by decide)
      · exact absurd (hMore _ hMember) (by decide)
  | @whole d digits hDigit hMore =>
      exact
        hDigits _ (List.forall_mem_cons.mpr ⟨hDigit, hMore⟩)
  | @decimal d e digits fraction hDigit hMore hPart hFraction =>
      intro hMember
      rcases List.mem_append.mp hMember with hFront | hBack
      · exact
          hDigits _
            (List.forall_mem_cons.mpr ⟨hDigit, hMore⟩) hFront
      · rcases List.mem_cons.mp hBack with hPoint | hBack
        · exact absurd hPoint (by decide)
        · exact
            hDigits _
              (List.forall_mem_cons.mpr ⟨hPart, hFraction⟩)
              hBack
  | string contents => exact absurd rfl hString
  | newline => exact absurd rfl hLine

/- What stands between quotes is on one line. -/
theorem Quoted.newline_not_mem_encode
    (contents : List Char) : '\n' ∉ encode contents := by
  unfold encode
  intro hMember
  rcases List.mem_flatMap.mp hMember with ⟨c, _, hC⟩
  unfold escape at hC
  split at hC
  case h_6 hLine _ _ =>
    exact hLine (List.mem_singleton.mp hC).symm
  all_goals exact absurd hC (by decide)

------------------------------------------------------------
-- Tokens Of Spellings
------------------------------------------------------------

/- What a token is without its place. -/
def Token.unplaced (t : Token) : TokenKind × String :=
  (t.kind, t.lexeme)

/- The tokens that a spelling can bring back. -/
def Respellable (t : Token) : Prop :=
  Lexeme t.kind t.lexeme.toList ∧ t.kind ≠ .newline

/- A spelling is on one line. -/
theorem Respellable.newline_not_mem
    {t : Token}
    (h : Respellable t) :
    '\n' ∉ written t.kind t.lexeme.toList := by
  unfold written
  split
  · simp [Quoted.newline_not_mem_encode]
  · exact h.1.newline_not_mem ‹_› h.2

/- Over characters of one line only the column moves. -/
theorem Position.after_on_line
    {p : Position}
    {chars : List Char}
    (h : '\n' ∉ chars) :
    p.after chars = ⟨p.line, p.column + chars.length⟩ := by
  induction chars generalizing p with
  | nil => rfl
  | cons c chars ih =>
      rw [List.mem_cons, not_or] at h
      rcases h with ⟨hFirst, hMore⟩
      rw [after_cons, ih hMore, step, if_neg (Ne.symm hFirst),
        List.length_cons, Nat.add_assoc, Nat.add_comm 1]

/- A text that is not shorter without its trivia has none. -/
theorem trivia_eq_nil
    {chars : List Char}
    (h : afterTrivia chars = chars) : trivia chars = [] := by
  have hWhole := trivia_append_afterTrivia chars
  rwa [h, List.append_left_eq_self] at hWhole

namespace Cursor

theorem skipTrivia_of_none
    (p : Position)
    {chars : List Char}
    (h : afterTrivia chars = chars) :
    skipTrivia ⟨p, chars⟩ = ⟨p, chars⟩ := by
  unfold skipTrivia
  rw [trivia_eq_nil h, h]
  rfl

/- A blank before a text without trivia is all its trivia. -/
theorem skipTrivia_blank
    (p : Position)
    {chars : List Char}
    (h : afterTrivia chars = chars) :
    skipTrivia ⟨p, ' ' :: chars⟩ =
      ⟨⟨p.line, p.column + 1⟩, chars⟩ := by
  have hTrivia : trivia (' ' :: chars) = ' ' :: trivia chars :=
    rfl
  have hAfter : afterTrivia (' ' :: chars) = chars := h
  unfold skipTrivia
  rw [hTrivia, trivia_eq_nil h, hAfter]
  rfl

/- The next token is the one behind the trivia. -/
theorem next_of_skipTrivia
    {cursor ahead : Cursor}
    (h : cursor.skipTrivia = ahead) :
    cursor.next = ahead.take (Piece.ofChars ahead.rest) := by
  rw [← h]
  rfl

/- A token that is written apart is the next one. -/
theorem next_written
    {cursor : Cursor}
    {p : Position}
    {t : Token}
    {rest : List Char}
    (h : Respellable t)
    (hRest : StandsApart rest)
    (hAhead :
      cursor.skipTrivia =
        ⟨p, written t.kind t.lexeme.toList ++ rest⟩) :
    cursor.next =
      (.ok { t with position := p },
        ⟨⟨p.line, p.column + t.spelling.length⟩, rest⟩) := by
  rw [next_of_skipTrivia hAhead,
    (spelled_written h.1 hRest.endsToken).ofChars_eq_spelled,
    take,
    Position.after_on_line h.newline_not_mem,
    ← toList_spelling, String.length_toList,
    String.ofList_toList]

end Cursor

/- The spellings behind the first one stand apart from it. -/
theorem toList_spellingOfTokens_cons_cons
    (t u : Token)
    (tokens : List Token) :
    (spellingOfTokens (t :: u :: tokens)).toList =
      written t.kind t.lexeme.toList ++
        ' ' :: (spellingOfTokens (u :: tokens)).toList := by
  simp [spellingOfTokens, String.intercalate_cons_cons,
    toList_spelling]

theorem toList_spellingOfTokens_singleton (t : Token) :
    (spellingOfTokens [t]).toList =
      written t.kind t.lexeme.toList := by
  simp [spellingOfTokens, toList_spelling]

theorem length_spellingOfTokens_cons_cons
    (t u : Token)
    (tokens : List Token) :
    (spellingOfTokens (t :: u :: tokens)).length =
      t.spelling.length + 1 +
        (spellingOfTokens (u :: tokens)).length := by
  simp [spellingOfTokens, String.intercalate_cons_cons]
  rfl

theorem length_spellingOfTokens_singleton (t : Token) :
    (spellingOfTokens [t]).length = t.spelling.length := by
  simp [spellingOfTokens]

/- No trivia comes before the first spelling. -/
theorem afterTrivia_spellingOfTokens
    {tokens : List Token}
    (h : ∀ t ∈ tokens, Respellable t) :
    afterTrivia (spellingOfTokens tokens).toList =
      (spellingOfTokens tokens).toList := by
  match tokens, h with
  | [], _ => rfl
  | [t], h =>
      rw [toList_spellingOfTokens_singleton,
        ← List.append_nil (written t.kind t.lexeme.toList)]
      exact
        afterTrivia_written (h t (by simp)).1
          (by simp [StandsApart])
  | t :: u :: tokens, h =>
      rw [toList_spellingOfTokens_cons_cons]
      exact
        afterTrivia_written (h t (by simp)).1
          (by simp [StandsApart])

------------------------------------------------------------
-- Rows
------------------------------------------------------------

/- Tokens on the first line, a blank apart, from a column on. -/
def inRow (column : Nat) : List Token → List Token
  | [] => []
  | t :: tokens =>
      { t with position := ⟨1, column⟩ } ::
        inRow (column + t.spelling.length + 1) tokens

/- They are the same tokens at other places. -/
theorem map_unplaced_inRow
    (column : Nat)
    (tokens : List Token) :
    (inRow column tokens).map Token.unplaced =
      tokens.map Token.unplaced := by
  induction tokens generalizing column with
  | nil => rfl
  | cons t tokens ih =>
      simp only [inRow, List.map_cons, ih]
      rfl

/- Tokens in a row can be respelled as before. -/
theorem respellable_of_mem_inRow
    {column : Nat}
    {tokens : List Token}
    (h : ∀ t ∈ tokens, Respellable t) :
    ∀ t ∈ inRow column tokens, Respellable t := by
  intro t hT
  have hIn : t.unplaced ∈ tokens.map Token.unplaced := by
    rw [← map_unplaced_inRow column]
    exact List.mem_map_of_mem hT
  rcases List.mem_map.mp hIn with ⟨u, hU, hSame⟩
  rcases Prod.mk.inj hSame with ⟨hKind, hLexeme⟩
  have hOther := h u hU
  unfold Respellable at hOther ⊢
  rwa [hKind, hLexeme] at hOther

/- The end of a text that goes on to a column. -/
def endAt (column : Nat) : Token :=
  ⟨.finish, "", ⟨1, column⟩⟩

/-
  The tokens from a cursor on are those that were spelled, in a
  row, and the end of the text.
-/
theorem Cursor.tokens_spellings
    {tokens : List Token}
    {cursor : Cursor}
    {column : Nat}
    (h : ∀ t ∈ tokens, Respellable t)
    (hAhead :
      cursor.skipTrivia =
        ⟨⟨1, column⟩, (spellingOfTokens tokens).toList⟩) :
    cursor.tokens =
      .ok
        (inRow column tokens ++
          [endAt
            (column + (spellingOfTokens tokens).length)]) := by
  induction tokens generalizing cursor column with
  | nil =>
      have hNext :
          cursor.next =
            (.ok (endAt column), ⟨⟨1, column⟩, []⟩) :=
        next_of_skipTrivia hAhead
      rw [tokens_of_finish hNext rfl]
      rfl
  | cons t tokens ih =>
      rcases List.forall_mem_cons.mp h with ⟨hFirst, hMore⟩
      have hToken : t.kind ≠ .finish := hFirst.1.ne_finish
      cases tokens with
      | nil =>
          have hText := toList_spellingOfTokens_singleton t
          have hNext :
              cursor.next =
                (.ok { t with position := ⟨1, column⟩ },
                  ⟨⟨1, column + t.spelling.length⟩, []⟩) := by
            apply next_written hFirst (by simp [StandsApart])
            rw [hAhead, hText, List.append_nil]
          rw [tokens_of_token hNext hToken, ih hMore rfl,
            length_spellingOfTokens_singleton]
          rfl
      | cons u tokens =>
          -- The blank between the two spellings is trivia, so
          -- the next token begins one column further on.
          rw [toList_spellingOfTokens_cons_cons] at hAhead
          have hNext :=
            next_written hFirst (by simp [StandsApart]) hAhead
          have hBehind :=
            ih hMore
              (skipTrivia_blank
                (⟨1, column + t.spelling.length⟩ : Position)
                (afterTrivia_spellingOfTokens hMore))
          rw [tokens_of_token hNext hToken, hBehind,
            length_spellingOfTokens_cons_cons,
            ← Nat.add_assoc, ← Nat.add_assoc]
          rfl

/-
  The text of the spellings of tokens, with blanks between them,
  has these tokens again, one behind the other, and its end.
-/
theorem tokenize_spellingOfTokens_row
    {tokens : List Token}
    (h : ∀ t ∈ tokens, Respellable t) :
    tokenize (spellingOfTokens tokens) =
      .ok
        (inRow 1 tokens ++
          [endAt (1 + (spellingOfTokens tokens).length)]) :=
  Cursor.tokens_spellings h
    (Cursor.skipTrivia_of_none .start
      (afterTrivia_spellingOfTokens h))

/- But for their places they are the tokens as they were. -/
theorem tokenize_spellingOfTokens
    {tokens : List Token}
    (h : ∀ t ∈ tokens, Respellable t) :
    (tokenize (spellingOfTokens tokens)).map
        (·.map Token.unplaced) =
      .ok (tokens.map Token.unplaced ++ [(.finish, "")]) := by
  rw [tokenize_spellingOfTokens_row h]
  simp [Except.map, map_unplaced_inRow, Token.unplaced, endAt]

end Rulebook
