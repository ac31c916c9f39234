import Rulebook.Proofs.Token.Lexeme

/-
  The piece at the start of a text is the longest one that fits:
  a spelling is read as a token exactly where no character
  behind it could have belonged to the token.

  Key definitions include:
    * `Quoted.Means`
    * `EndsToken`
    * `Spelled`

  Main results:
    * `Body.ofChars_of_means`
    * `Body.means_of_ofChars`
    * `Keyword.ofWord?_eq_some_iff`
    * `Spelled.ofChars_eq_spelled`
    * `spelled_of_ofChars`
-/

namespace Rulebook

------------------------------------------------------------
-- String Literals
------------------------------------------------------------

/-
  What may stand between the quotes of a literal, and the text
  that it means.  A line end or a quote needs a backslash.
-/
inductive Quoted.Means : List Char → List Char → Prop where
  | nil : Means [] []
  | plain
      {c : Char}
      {body contents : List Char}
      (hPlain : c ≠ '"' ∧ c ≠ '\\' ∧ c ≠ '\n')
      (hBody : Means body contents) :
      Means (c :: body) (c :: contents)
  | escaped
      {c : Char}
      {body contents : List Char}
      (hBody : Means body contents) :
      Means ('\\' :: c :: body)
        (Quoted.unescape c :: contents)

/- What a body means is decoded from it. -/
theorem Quoted.Means.decode_eq
    {body contents : List Char}
    (h : Means body contents) :
    decode body = contents := by
  induction h with
  | nil => rfl
  | @plain c body contents hPlain hBody ih =>
      rw [decode, ih]
      intro d rest hSlash
      exact absurd hSlash hPlain.2.1
  | escaped hBody ih => rw [decode, ih]

namespace Body

/- A body that means something goes on to the quote behind it. -/
theorem ofChars_of_means
    {body contents : List Char}
    (rest : List Char)
    (h : Quoted.Means body contents) :
    ofChars (body ++ '"' :: rest) = .closed body rest := by
  induction h with
  | nil => rfl
  | @plain c body contents hPlain hBody ih =>
      rcases hPlain with ⟨hQuote, hSlash, hLine⟩
      rw [List.cons_append, ofChars, if_neg hQuote,
        if_neg hLine, ih]
      · rfl
      · intro hSame
        exact absurd hSame hSlash
      · intro d more hSame
        exact absurd hSame hSlash
  | escaped hBody ih =>
      rw [List.cons_append, List.cons_append, ofChars, ih]
      rfl

/- A body behind some characters is closed where it is. -/
theorem push_eq_closed_iff
    {chars body rest : List Char}
    {b : Body} :
    b.push chars = .closed body rest ↔
      ∃ more, b = .closed more rest ∧ chars ++ more = body := by
  cases b with
  | closed more behind =>
      simp only [push, closed.injEq]
      constructor
      · rintro ⟨hBody, rfl⟩
        exact ⟨more, ⟨rfl, rfl⟩, hBody⟩
      · rintro ⟨_, ⟨rfl, rfl⟩, hBody⟩
        exact ⟨hBody, rfl⟩
  | unclosed more behind => simp [push]
  | dangling more => simp [push]

/- A character that begins no escape is no backslash. -/
theorem ne_backslash
    {c : Char}
    {chars : List Char}
    (hAlone : c = '\\' → chars = [] → False)
    (hEscape :
      ∀ d more, c = '\\' → chars = d :: more → False) :
    c ≠ '\\' := by
  intro hSame
  cases chars with
  | nil => exact hAlone hSame rfl
  | cons d more => exact hEscape d more hSame rfl

/- A closed body means something. -/
theorem means_of_ofChars
    {chars body rest : List Char}
    (h : ofChars chars = .closed body rest) :
    Quoted.Means body (Quoted.decode body) := by
  fun_induction ofChars chars generalizing body with
  | case1 => cases h
  | case2 => cases h
  | case3 c chars ih =>
      rcases push_eq_closed_iff.mp h with ⟨more, hMore, rfl⟩
      exact .escaped (ih hMore)
  | case4 =>
      cases h
      exact .nil
  | case5 => cases h
  | case6 c chars hAlone hSlash hQuote hLine ih =>
      rcases push_eq_closed_iff.mp h with ⟨more, hMore, rfl⟩
      have hPlain : c ≠ '\\' := ne_backslash hAlone hSlash
      rw [List.singleton_append, Quoted.decode]
      · exact .plain ⟨hQuote, hPlain, hLine⟩ (ih hMore)
      · intro d rest hSame
        exact absurd hSame hPlain

end Body

------------------------------------------------------------
-- Kinds
------------------------------------------------------------

/- A keyword is found by its word, and by no other. -/
theorem Keyword.ofWord?_eq_some_iff
    {word : String}
    {k : Keyword} :
    ofWord? word = some k ↔ k.word = word := by
  constructor
  · intro h
    simpa using List.find?_some h
  · rintro rfl
    cases k <;> decide

/- Words are keywords and identifiers. -/
def TokenKind.isWord : TokenKind → Bool
  | .keyword _ => true
  | .identifier => true
  | _ => false

/- The kind of a word is the kind of a word. -/
theorem isWord_kindOfWord (word : List Char) :
    (kindOfWord word).isWord = true := by
  rcases kindOfWord_cases word with ⟨k, hWord⟩ | hWord
  · rw [hWord]
    rfl
  · rw [hWord]
    rfl

/- A word is a keyword if and only if its lower case is one. -/
theorem kindOfWord_eq_keyword_iff
    {word : List Char}
    {k : Keyword} :
    kindOfWord word = .keyword k ↔
      Unicode.lowercaseText (String.ofList word) =
        k.word := by
  unfold kindOfWord
  rw [eq_comm (b := k.word), ← Keyword.ofWord?_eq_some_iff]
  cases Keyword.ofWord?
      (Unicode.lowercaseText (String.ofList word)) <;>
    simp

/- The second sign of a symbol is an equals sign. -/
theorem Symbol.eq_of_ofPair?
    {c d : Char}
    {s : Symbol}
    (h : ofPair? c d = some s) :
    d = '=' ∧ c ∈ ['=', '!', '>', '<'] := by
  have hSpelling : s.spelling = [c, d] := by
    simpa using List.find?_some h
  cases s with
  | equal | notEqual | greaterEqual | lessEqual =>
      cases hSpelling
      simp
  | _ => cases hSpelling

/- An equals sign makes some symbols longer. -/
theorem Symbol.ofPair?_ne_none
    {c : Char}
    {s : Symbol}
    (hShort : s ∈ [.assign, .less, .greater])
    (hSpelling : s.spelling = [c]) :
    ofPair? c '=' ≠ none := by
  simp only [List.mem_cons, List.not_mem_nil, or_false]
    at hShort
  rcases hShort with rfl | rfl | rfl <;>
    cases hSpelling <;> decide

/- A symbol is found by its sign. -/
theorem Symbol.ofChar?_eq_some_iff
    {c : Char}
    {s : Symbol} :
    ofChar? c = some s ↔ s.spelling = [c] := by
  constructor
  · intro h
    simpa using List.find?_some h
  · intro h
    cases s <;> cases h <;> rfl

------------------------------------------------------------
-- Spellings
------------------------------------------------------------

/-
  No character behind a token could have belonged to it: what
  follows does not go on with a word or a number, and does not
  make a longer symbol.
-/
structure EndsToken
    (kind : TokenKind)
    (lexeme rest : List Char) : Prop where
  word :
    kind.isWord = true →
      ∀ c ∈ rest.head?, continuesWord c = false
  digit :
    kind = .number → ∀ c ∈ rest.head?, c.isDigit = false
  fraction :
    kind = .number →
      '.' ∉ lexeme →
        ∀ d more, rest = '.' :: d :: more → d.isDigit = false
  equals :
    kind ∈
        [.symbol .assign, .symbol .less,
          .symbol .greater] →
      rest.head? ≠ some '='

/-
  Characters that spell a token in front of a rest.  A string
  is spelled as a literal that means it, any other token as its
  lexeme.
-/
structure Spelled
    (kind : TokenKind)
    (lexeme spelling rest : List Char) : Prop where
  shape : Lexeme kind lexeme
  plain : kind ≠ .string → spelling = lexeme
  literal :
    kind = .string →
      ∃ body,
        spelling = '"' :: body ++ ['"'] ∧
          Quoted.Means body lexeme
  keyword :
    kind.isWord = true →
      ∀ k : Keyword,
        kind = .keyword k ↔
          Unicode.lowercaseText (String.ofList lexeme) =
            k.word
  ends : EndsToken kind lexeme rest

namespace EndsToken

variable {kind : TokenKind}
variable {lexeme rest : List Char}

/- A word ends where no character goes on with it. -/
theorem of_word
    (hKind : kind.isWord = true)
    (hRest : ∀ c ∈ rest.head?, continuesWord c = false) :
    EndsToken kind lexeme rest where
  word _ := hRest
  digit hNumber := by
    rw [hNumber] at hKind
    cases hKind
  fraction hNumber := by
    rw [hNumber] at hKind
    cases hKind
  equals hSymbol := by
    simp only [List.mem_cons, List.not_mem_nil, or_false]
      at hSymbol
    rcases hSymbol with rfl | rfl | rfl <;> cases hKind

/- A number ends before what is no digit and no fraction. -/
theorem of_number
    (hDigit : ∀ c ∈ rest.head?, c.isDigit = false)
    (hFraction :
      '.' ∉ lexeme →
        ∀ d more, rest = '.' :: d :: more →
          d.isDigit = false) :
    EndsToken .number lexeme rest where
  word hWord := by cases hWord
  digit _ := hDigit
  fraction _ := hFraction
  equals hSymbol := by simp at hSymbol

/- Any other token only needs not to be a shorter symbol. -/
theorem of_other
    (hWord : kind.isWord = false)
    (hNumber : kind ≠ .number)
    (hEquals :
      kind ∈
          [.symbol .assign, .symbol .less,
            .symbol .greater] →
        rest.head? ≠ some '=') :
    EndsToken kind lexeme rest where
  word hKind := by
    rw [hWord] at hKind
    cases hKind
  digit hKind := absurd hKind hNumber
  fraction hKind := absurd hKind hNumber
  equals := hEquals

end EndsToken

------------------------------------------------------------
-- From Pieces To Spellings
------------------------------------------------------------

/- A character that starts a word also continues one. -/
theorem continuesWord_of_startsWord
    {c : Char}
    (h : startsWord c = true) : continuesWord c = true := by
  simp only [startsWord, Bool.or_eq_true] at h
  rcases h with hLetter | hLine
  · simp [continuesWord, hLetter]
  · simp [continuesWord, hLine]

/- The word at the start of a text is a spelling. -/
theorem spelled_word
    {c : Char}
    {chars : List Char}
    (hStart : startsWord c = true) :
    Spelled
      (kindOfWord ((c :: chars).takeWhile continuesWord))
      ((c :: chars).takeWhile continuesWord)
      ((c :: chars).takeWhile continuesWord)
      ((c :: chars).dropWhile continuesWord) where
  shape := by
    rw [List.takeWhile_cons_of_pos
      (continuesWord_of_startsWord hStart)]
    exact .word hStart of_mem_takeWhile
  plain _ := rfl
  literal hString := by
    have hWord := isWord_kindOfWord
      ((c :: chars).takeWhile continuesWord)
    rw [hString] at hWord
    cases hWord
  keyword _ k := kindOfWord_eq_keyword_iff
  ends :=
    .of_word (isWord_kindOfWord _) head?_dropWhile_outside

/- There is a fraction where a digit follows a point. -/
theorem fractionPart_eq_nil_iff
    {chars : List Char} :
    fractionPart chars = [] ↔
      ∀ d more, chars = '.' :: d :: more →
        d.isDigit = false := by
  unfold fractionPart
  split
  · rename_i d more
    by_cases hDigit : d.isDigit = true
    · simp [hDigit]
    · simp [hDigit]
  · rename_i hOther
    simp only [true_iff]
    intro d more hChars
    exact absurd hChars (hOther d more)

/- A fraction shows its point. -/
theorem fractionPart_eq_nil_of_not_mem
    {chars : List Char}
    (h : '.' ∉ fractionPart chars) :
    fractionPart chars = [] := by
  unfold fractionPart at h ⊢
  split
  · rename_i d more
    by_cases hDigit : d.isDigit = true
    · simp [hDigit] at h
    · simp [hDigit]
  · rfl

/- Where there is no fraction, none is passed over. -/
theorem afterFraction_of_nil
    {chars : List Char}
    (h : fractionPart chars = []) :
    afterFraction chars = chars := by
  have hWhole := fractionPart_append_afterFraction chars
  rwa [h, List.nil_append] at hWhole

/- No digit follows a fraction. -/
theorem head?_afterFraction
    {chars : List Char}
    (h : ∀ c ∈ chars.head?, c.isDigit = false) :
    ∀ c ∈ (afterFraction chars).head?,
      c.isDigit = false := by
  by_cases hNone : fractionPart chars = []
  · rw [afterFraction_of_nil hNone]
    exact h
  · unfold fractionPart at hNone
    unfold afterFraction
    split at hNone
    · split at hNone
      · rename_i hDigit
        rw [if_pos hDigit]
        exact head?_dropWhile_outside
      · exact absurd rfl hNone
    · exact absurd rfl hNone

/- A digit at the start of a text begins a number. -/
theorem lexeme_number
    {d : Char}
    {chars : List Char}
    (hDigit : d.isDigit = true) :
    Lexeme .number (number (d :: chars)) := by
  unfold number
  rw [List.takeWhile_cons_of_pos hDigit,
    List.dropWhile_cons_of_pos hDigit]
  unfold fractionPart
  split
  · rename_i e fraction hRest
    by_cases hPart : e.isDigit = true
    · rw [if_pos hPart, List.takeWhile_cons_of_pos hPart]
      exact
        .decimal hDigit of_mem_takeWhile hPart
          of_mem_takeWhile
    · rw [if_neg hPart, List.append_nil]
      exact .whole hDigit of_mem_takeWhile
  · rw [List.append_nil]
    exact .whole hDigit of_mem_takeWhile

/- The number at the start of a text is a spelling. -/
theorem spelled_number
    {d : Char}
    {chars : List Char}
    (hDigit : d.isDigit = true) :
    Spelled .number (number (d :: chars))
      (number (d :: chars)) (afterNumber (d :: chars)) where
  shape := lexeme_number hDigit
  plain _ := rfl
  literal hString := by cases hString
  keyword hWord := by cases hWord
  ends := by
    apply EndsToken.of_number
    · exact head?_afterFraction head?_dropWhile_outside
    · intro hPoint
      have hNone :
          fractionPart ((d :: chars).dropWhile Char.isDigit) =
            [] := by
        apply fractionPart_eq_nil_of_not_mem
        intro hMember
        exact hPoint (List.mem_append_right _ hMember)
      rw [afterNumber, afterFraction_of_nil hNone]
      exact fractionPart_eq_nil_iff.mp hNone

/- The literal at the start of a text is a spelling. -/
theorem spelled_string
    {chars body rest : List Char}
    (h : Body.ofChars chars = .closed body rest) :
    Spelled .string (Quoted.decode body)
      ('"' :: body ++ ['"']) rest where
  shape := .string _
  plain hKind := absurd rfl hKind
  literal _ := ⟨body, rfl, Body.means_of_ofChars h⟩
  keyword hWord := by cases hWord
  ends := .of_other rfl (by simp) (by simp)

/- A line end is a spelling. -/
theorem spelled_newline (rest : List Char) :
    Spelled .newline ['\n'] ['\n'] rest where
  shape := .newline
  plain _ := rfl
  literal hString := by cases hString
  keyword hWord := by cases hWord
  ends := .of_other rfl (by simp) (by simp)

/- A symbol is a spelling unless a longer one is there. -/
theorem spelled_symbol
    {s : Symbol}
    {rest : List Char}
    (hEquals :
      s ∈ [.assign, .less, .greater] →
        rest.head? ≠ some '=') :
    Spelled (.symbol s) s.spelling s.spelling rest where
  shape := .symbol s
  plain _ := rfl
  literal hString := by cases hString
  keyword hWord := by cases hWord
  ends := .of_other rfl (by simp) (by simpa using hEquals)

/- A symbol of one sign, where it is no part of a longer one. -/
theorem spelled_of_ofSign
    {c : Char}
    {chars lexeme spelling rest : List Char}
    {kind : TokenKind}
    (h :
      Piece.ofSign c chars =
        .spelled kind lexeme spelling rest)
    (hPair :
      ∀ d ∈ chars.head?, Symbol.ofPair? c d = none) :
    Spelled kind lexeme spelling rest := by
  unfold Piece.ofSign at h
  split at h
  · rename_i s hSymbol
    have hSpelling := Symbol.ofChar?_eq_some_iff.mp hSymbol
    cases h
    rw [← hSpelling]
    apply spelled_symbol
    intro hShort hHead
    exact
      absurd (hPair '=' hHead)
        (Symbol.ofPair?_ne_none hShort hSpelling)
  · split at h <;> cases h

/- A symbol at the start of a text, the longest that fits. -/
theorem spelled_of_ofSigns
    {c : Char}
    {chars lexeme spelling rest : List Char}
    {kind : TokenKind}
    (h :
      Piece.ofSigns c chars =
        .spelled kind lexeme spelling rest) :
    Spelled kind lexeme spelling rest := by
  unfold Piece.ofSigns at h
  split at h
  · exact spelled_of_ofSign h (by simp)
  · rename_i d chars
    split at h
    · rename_i s hSymbol
      have hSpelling : s.spelling = [c, d] := by
        simpa using List.find?_some hSymbol
      cases h
      rw [← hSpelling]
      apply spelled_symbol
      intro hShort
      simp only [List.mem_cons, List.not_mem_nil, or_false]
        at hShort
      rcases hShort with rfl | rfl | rfl <;> cases hSpelling
    · rename_i hNone
      apply spelled_of_ofSign h
      intro e hHead
      cases hHead
      exact hNone

/- Every piece that is a token is the spelling of the token. -/
theorem spelled_of_ofChars
    {chars lexeme spelling rest : List Char}
    {kind : TokenKind}
    (h :
      Piece.ofChars chars =
        .spelled kind lexeme spelling rest) :
    Spelled kind lexeme spelling rest := by
  unfold Piece.ofChars at h
  split at h
  · cases h
  · rename_i c chars
    split at h
    · rename_i hLine
      cases h
      rw [hLine]
      exact spelled_newline rest
    split at h
    · cases hBody : Body.ofChars chars with
      | closed body behind =>
          rw [hBody] at h
          cases h
          exact spelled_string hBody
      | unclosed body behind =>
          rw [hBody] at h
          cases h
      | dangling body =>
          rw [hBody] at h
          cases h
    split at h
    · rename_i hStart
      unfold Piece.ofWord at h
      -- `cases` would evaluate the kind of the word.
      injection h with hKind hLexeme hSpelling hRest
      rw [← hKind, ← hLexeme, ← hSpelling, ← hRest]
      exact spelled_word hStart
    split at h
    · rename_i hDigit
      unfold Piece.ofNumber at h
      cases h
      exact spelled_number hDigit
    · exact spelled_of_ofSigns h

------------------------------------------------------------
-- From Spellings To Pieces
------------------------------------------------------------

/- A character inside a class is none outside it. -/
theorem ne_of_inClass
    {inClass : Char → Bool}
    {c d : Char}
    (hC : inClass c = true)
    (hD : inClass d = false) : c ≠ d := by
  rintro rfl
  rw [hC] at hD
  cases hD

/- No digit starts a word. -/
theorem startsWord_of_isDigit
    {d : Char}
    (h : d.isDigit = true) : startsWord d = false := by
  have hDigits :
      ∀ n < 58,
        48 ≤ n → startsWord (Char.ofNat n) = false := by
    decide
  rcases Char.isDigit_iff_toNat.mp h with ⟨hLower, hUpper⟩
  have hDigit :=
    hDigits d.toNat (Nat.lt_succ_of_le hUpper) hLower
  rw [Char.ofNat_toNat] at hDigit
  exact hDigit

/- A word is read as a whole where nothing goes on with it. -/
theorem ofChars_word
    {c : Char}
    {chars rest : List Char}
    (hStart : startsWord c = true)
    (hMore : ∀ d ∈ chars, continuesWord d = true)
    (hRest : ∀ d ∈ rest.head?, continuesWord d = false) :
    Piece.ofChars (c :: chars ++ rest) =
      .spelled (kindOfWord (c :: chars)) (c :: chars)
        (c :: chars) rest := by
  have hLine : c ≠ '\n' := ne_of_inClass hStart (by decide)
  have hQuote : c ≠ '"' := ne_of_inClass hStart (by decide)
  have hAll : ∀ d ∈ c :: chars, continuesWord d = true :=
    List.forall_mem_cons.mpr
      ⟨continuesWord_of_startsWord hStart, hMore⟩
  rw [List.cons_append, Piece.ofChars, if_neg hLine,
    if_neg hQuote, if_pos hStart, Piece.ofWord,
    ← List.cons_append, takeWhile_run hAll hRest,
    dropWhile_run hAll hRest]

/- A digit at the start is where a number is read. -/
theorem ofChars_digit
    {d : Char}
    {chars : List Char}
    (hDigit : d.isDigit = true) :
    Piece.ofChars (d :: chars) =
      Piece.ofNumber (d :: chars) := by
  have hLine : d ≠ '\n' := ne_of_inClass hDigit (by decide)
  have hQuote : d ≠ '"' := ne_of_inClass hDigit (by decide)
  have hStart : startsWord d = false :=
    startsWord_of_isDigit hDigit
  rw [Piece.ofChars, if_neg hLine, if_neg hQuote,
    if_neg (by simp [hStart]), if_pos hDigit]

/- A whole number ends where neither digit nor point goes on. -/
theorem ofChars_whole
    {d : Char}
    {digits rest : List Char}
    (hDigit : d.isDigit = true)
    (hMore : ∀ c ∈ digits, c.isDigit = true)
    (hRest : ∀ c ∈ rest.head?, c.isDigit = false)
    (hFraction : fractionPart rest = []) :
    Piece.ofChars (d :: digits ++ rest) =
      .spelled .number (d :: digits) (d :: digits) rest := by
  have hAll : ∀ c ∈ d :: digits, c.isDigit = true :=
    List.forall_mem_cons.mpr ⟨hDigit, hMore⟩
  rw [List.cons_append, ofChars_digit hDigit,
    ← List.cons_append, Piece.ofNumber, number, afterNumber,
    takeWhile_run hAll hRest, dropWhile_run hAll hRest,
    hFraction, afterFraction_of_nil hFraction,
    List.append_nil]

/- A number with a fraction ends where no digit goes on. -/
theorem ofChars_decimal
    {d e : Char}
    {digits fraction rest : List Char}
    (hDigit : d.isDigit = true)
    (hMore : ∀ c ∈ digits, c.isDigit = true)
    (hPart : e.isDigit = true)
    (hFraction : ∀ c ∈ fraction, c.isDigit = true)
    (hRest : ∀ c ∈ rest.head?, c.isDigit = false) :
    Piece.ofChars (d :: digits ++ '.' :: e :: fraction ++ rest) =
      .spelled .number (d :: digits ++ '.' :: e :: fraction)
        (d :: digits ++ '.' :: e :: fraction) rest := by
  have hAll : ∀ c ∈ d :: digits, c.isDigit = true :=
    List.forall_mem_cons.mpr ⟨hDigit, hMore⟩
  have hPoint :
      ∀ c ∈ ('.' :: e :: (fraction ++ rest)).head?,
        c.isDigit = false := by
    intro c hC
    cases hC
    rfl
  have hFractionAll :
      ∀ c ∈ e :: fraction, c.isDigit = true :=
    List.forall_mem_cons.mpr ⟨hPart, hFraction⟩
  have hText :
      d :: digits ++ '.' :: e :: fraction ++ rest =
        d :: digits ++ '.' :: e :: (fraction ++ rest) := by
    simp
  have hTaken :
      fractionPart ('.' :: e :: (fraction ++ rest)) =
        '.' :: e :: fraction := by
    rw [fractionPart, if_pos hPart, ← List.cons_append,
      takeWhile_run hFractionAll hRest]
  have hLeft :
      afterFraction ('.' :: e :: (fraction ++ rest)) =
        rest := by
    rw [afterFraction, if_pos hPart, ← List.cons_append,
      dropWhile_run hFractionAll hRest]
  rw [hText, List.cons_append, ofChars_digit hDigit,
    ← List.cons_append, Piece.ofNumber, number, afterNumber,
    takeWhile_run hAll hPoint, dropWhile_run hAll hPoint,
    hTaken, hLeft]

/- A sign before what makes no longer symbol stands alone. -/
theorem ofSigns_of_ne
    {c : Char}
    {chars : List Char}
    (h :
      c ∈ ['=', '!', '>', '<'] → chars.head? ≠ some '=') :
    Piece.ofSigns c chars = Piece.ofSign c chars := by
  unfold Piece.ofSigns
  split
  · rfl
  · rename_i d chars
    split
    · rename_i s hSymbol
      rcases Symbol.eq_of_ofPair? hSymbol with ⟨hEquals, hC⟩
      rw [hEquals] at h
      exact absurd rfl (h hC)
    · rfl

/- A symbol is read where a longer one is not there. -/
theorem ofChars_symbol
    {s : Symbol}
    {rest : List Char}
    (hEquals :
      s ∈ [.assign, .less, .greater] →
        rest.head? ≠ some '=') :
    Piece.ofChars (s.spelling ++ rest) =
      .spelled (.symbol s) s.spelling s.spelling rest := by
  cases s with
  | equal | notEqual | greaterEqual | lessEqual => rfl
  | assign | less | greater =>
      apply (ofSigns_of_ne (by simpa using hEquals)).trans
      rfl
  | _ =>
      apply (ofSigns_of_ne (by simp)).trans
      rfl

/- What spells a token in front of a rest is read as it. -/
theorem Spelled.ofChars_eq_spelled
    {kind : TokenKind}
    {lexeme spelling rest : List Char}
    (h : Spelled kind lexeme spelling rest) :
    Piece.ofChars (spelling ++ rest) =
      .spelled kind lexeme spelling rest := by
  rcases h with
    ⟨hShape, hPlain, hLiteral, hKeyword, hEnds⟩
  cases hShape with
  | symbol s =>
      rw [hPlain (by simp)]
      exact ofChars_symbol (by simpa using hEnds.equals)
  | @word c chars hStart hMore =>
      have hWord := isWord_kindOfWord (c :: chars)
      have hKind : kindOfWord (c :: chars) ≠ .string := by
        intro hString
        rw [hString] at hWord
        cases hWord
      rw [hPlain hKind]
      exact ofChars_word hStart hMore (hEnds.word hWord)
  | @whole d digits hDigit hMore =>
      have hNoPoint : '.' ∉ d :: digits := by
        intro hPoint
        have hAll : ∀ c ∈ d :: digits, c.isDigit = true :=
          List.forall_mem_cons.mpr ⟨hDigit, hMore⟩
        exact absurd (hAll '.' hPoint) (by decide)
      rw [hPlain (by simp)]
      apply ofChars_whole hDigit hMore (hEnds.digit rfl)
      exact
        fractionPart_eq_nil_iff.mpr
          (hEnds.fraction rfl hNoPoint)
  | decimal hDigit hMore hPart hFraction =>
      rw [hPlain (by simp)]
      exact
        ofChars_decimal hDigit hMore hPart hFraction
          (hEnds.digit rfl)
  | string =>
      rcases hLiteral rfl with ⟨body, rfl, hMeans⟩
      have hText :
          '"' :: body ++ ['"'] ++ rest =
            '"' :: (body ++ '"' :: rest) := by
        simp
      rw [hText, Piece.ofChars, if_neg (by decide),
        if_pos rfl, Body.ofChars_of_means rest hMeans,
        Piece.ofBody, hMeans.decode_eq]
  | newline =>
      rw [hPlain (by simp)]
      rfl

end Rulebook
