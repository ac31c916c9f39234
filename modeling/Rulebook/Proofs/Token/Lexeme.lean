import Rulebook.Number
import Rulebook.Proofs.Lists
import Rulebook.Token.Piece

/-
  The lexemes that tokens of a text have.

  Key definitions include:
    * `Lexeme`

  Main results:
    * `Lexeme.ne_finish`
    * `Lexeme.isSome_ofNumeral?`
-/

namespace Rulebook

------------------------------------------------------------
-- Lexemes
------------------------------------------------------------

/-
  What the lexemes of a kind look like.  No character of a text
  belongs to its end, and so there is no case for `finish`.
-/
inductive Lexeme : TokenKind → List Char → Prop where
  | symbol (s : Symbol) : Lexeme (.symbol s) s.spelling
  | word
      {c : Char}
      {chars : List Char}
      (hStart : startsWord c = true)
      (hMore : ∀ d ∈ chars, continuesWord d = true) :
      Lexeme (kindOfWord (c :: chars)) (c :: chars)
  | whole
      {d : Char}
      {digits : List Char}
      (hDigit : d.isDigit = true)
      (hMore : ∀ c ∈ digits, c.isDigit = true) :
      Lexeme .number (d :: digits)
  | decimal
      {d e : Char}
      {digits fraction : List Char}
      (hDigit : d.isDigit = true)
      (hMore : ∀ c ∈ digits, c.isDigit = true)
      (hPart : e.isDigit = true)
      (hFraction : ∀ c ∈ fraction, c.isDigit = true) :
      Lexeme .number (d :: digits ++ '.' :: e :: fraction)
  | string (contents : List Char) : Lexeme .string contents
  | newline : Lexeme .newline ['\n']

/- A word is a keyword or an identifier. -/
theorem kindOfWord_cases (word : List Char) :
    (∃ k, kindOfWord word = .keyword k) ∨
      kindOfWord word = .identifier := by
  unfold kindOfWord
  split
  · exact .inl ⟨_, rfl⟩
  · exact .inr rfl

/- The end of a text has no lexeme. -/
theorem Lexeme.ne_finish
    {kind : TokenKind}
    {lexeme : List Char}
    (h : Lexeme kind lexeme) : kind ≠ .finish := by
  cases h with
  | @word c chars hStart hMore =>
      rcases kindOfWord_cases (c :: chars) with
        ⟨k, hKind⟩ | hKind
      · rw [hKind]
        simp
      · rw [hKind]
        simp
  | _ => simp

/- Only the literal of a text can have an empty lexeme. -/
theorem Lexeme.ne_nil
    {kind : TokenKind}
    {lexeme : List Char}
    (h : Lexeme kind lexeme)
    (hKind : kind ≠ .string) : lexeme ≠ [] := by
  cases h with
  | symbol s => cases s <;> simp [Symbol.spelling]
  | string contents => exact absurd rfl hKind
  | _ => simp

------------------------------------------------------------
-- Numbers
------------------------------------------------------------

/- A text that starts with a digit has no sign. -/
theorem splitSign_digit
    {d : Char}
    {chars : List Char}
    (h : d.isDigit = true) :
    Binary64.splitSign (d :: chars) = (false, d :: chars) := by
  unfold Binary64.splitSign
  split
  · rename_i hSign
    cases hSign
    exact absurd h (by decide)
  · rename_i hSign
    cases hSign
    exact absurd h (by decide)
  · rfl

/-
  Digits are a decimal with what follows them, if this is
  nothing or a point with further digits.
-/
theorem isSome_ofText?
    {d : Char}
    {digits part : List Char}
    (hDigit : d.isDigit = true)
    (hMore : ∀ c ∈ digits, c.isDigit = true)
    (hHead : ∀ c ∈ part.head?, c.isDigit = false)
    (hPart : (Decimal.fraction part).2 = []) :
    (Decimal.ofText? (d :: digits ++ part)).isSome =
      true := by
  have hAll : ∀ c ∈ d :: digits, c.isDigit = true :=
    List.forall_mem_cons.mpr ⟨hDigit, hMore⟩
  unfold Decimal.ofText?
  rw [takeWhile_run hAll hHead, dropWhile_run hAll hHead]
  simp [hPart, Decimal.exponent?]

/- The lexeme of a number is the text of a number. -/
theorem Lexeme.isSome_ofNumeral?
    {lexeme : List Char}
    (h : Lexeme .number lexeme) :
    (Number.ofNumeral? (String.ofList lexeme)).isSome =
      true := by
  generalize hKind : TokenKind.number = kind at h
  have hDecimal :
      ∃ d chars,
        lexeme = d :: chars ∧
          d.isDigit = true ∧
          (Decimal.ofText? lexeme).isSome = true := by
    cases h with
    | @whole d digits hDigit hMore =>
        refine ⟨d, digits, rfl, hDigit, ?_⟩
        have hText :=
          @isSome_ofText? d digits [] hDigit hMore
            (by simp) rfl
        simpa using hText
    | @decimal d e digits fraction hDigit hMore hPart
        hFraction =>
        refine ⟨d, _, rfl, hDigit, ?_⟩
        apply isSome_ofText? hDigit hMore
        · simp
        · have hEnd :=
            @dropWhile_run Char Char.isDigit fraction []
              hFraction (by simp)
          rw [List.append_nil] at hEnd
          simp [Decimal.fraction, hPart, hEnd]
    | @word c chars hStart hMore =>
        rcases kindOfWord_cases (c :: chars) with
          ⟨k, hWord⟩ | hWord
        · rw [hWord] at hKind
          cases hKind
        · rw [hWord] at hKind
          cases hKind
    | _ => cases hKind
  rcases hDecimal with ⟨d, chars, rfl, hDigit, hSome⟩
  unfold Number.ofNumeral? Binary64.ofNumeral?
  rw [String.toList_ofList, splitSign_digit hDigit]
  simp only [Option.isSome_map]
  split
  · rfl
  split
  · rfl
  · simpa using hSome

end Rulebook
