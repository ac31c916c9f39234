import Rulebook.Text.Quoted
import Rulebook.Token.Kind
import Rulebook.Unicode.Letter
import Rulebook.Unicode.Lowercase
import Rulebook.Unicode.Numeral

/-
  What a text begins with: trivia, and behind it the spelling of
  a token.  Nothing here knows of places, so the same characters
  are read in the same way wherever they stand.

  Key definitions include:
    * `trivia`
    * `afterTrivia`
    * `Piece`
    * `piece`

  Every character is accounted for by:
    * `trivia_append_afterTrivia`
    * `piece_spelled_split`
    * `piece_faulty_split`
-/

namespace Rulebook

------------------------------------------------------------
-- Trivia
------------------------------------------------------------

/- The characters that only separate tokens. -/
def isSpacing (c : Char) : Bool :=
  c = ' ' || c = '\t' || c = '\r'

/- A comment begins with `#` or with two slashes. -/
def startsComment : List Char → Bool
  | '#' :: _ => true
  | '/' :: '/' :: _ => true
  | _ => false

/- A comment at the start of a text goes on to its line end. -/
def comment (chars : List Char) : List Char :=
  if startsComment chars then
    chars.takeWhile (· != '\n')
  else
    []

/- What follows a comment at the start of a text. -/
def afterComment (chars : List Char) : List Char :=
  if startsComment chars then
    chars.dropWhile (· != '\n')
  else
    chars

/- Spacing, and a comment if one follows it. -/
def trivia (chars : List Char) : List Char :=
  chars.takeWhile isSpacing ++
    comment (chars.dropWhile isSpacing)

/- What follows the trivia at the start of a text. -/
def afterTrivia (chars : List Char) : List Char :=
  afterComment (chars.dropWhile isSpacing)

theorem comment_append_afterComment (chars : List Char) :
    comment chars ++ afterComment chars = chars := by
  unfold comment afterComment
  split
  · exact List.takeWhile_append_dropWhile
  · rfl

/- Trivia and what follows it are the whole text. -/
theorem trivia_append_afterTrivia (chars : List Char) :
    trivia chars ++ afterTrivia chars = chars := by
  unfold trivia afterTrivia
  rw [List.append_assoc, comment_append_afterComment,
    List.takeWhile_append_dropWhile]

------------------------------------------------------------
-- Words
------------------------------------------------------------

/- A word starts with a letter or an underscore. -/
def startsWord (c : Char) : Bool :=
  Unicode.isLetter c || c = '_'

/- A word goes on with letters, numerals and underscores. -/
def continuesWord (c : Char) : Bool :=
  Unicode.isLetter c || Unicode.isNumeral c || c = '_'

/- A word is a keyword if its lower case is one. -/
def kindOfWord (word : List Char) : TokenKind :=
  match Keyword.ofWord?
      (Unicode.lowercaseText (String.ofList word)) with
  | some keyword => .keyword keyword
  | none => .identifier

------------------------------------------------------------
-- Numbers
------------------------------------------------------------

/-
  The fraction at the start of a text: a point with a digit
  behind it, and all further digits.
-/
def fractionPart : List Char → List Char
  | '.' :: d :: chars =>
      if d.isDigit then
        '.' :: (d :: chars).takeWhile Char.isDigit
      else
        []
  | _ => []

/- What follows the fraction at the start of a text. -/
def afterFraction : List Char → List Char
  | '.' :: d :: chars =>
      if d.isDigit then
        (d :: chars).dropWhile Char.isDigit
      else
        '.' :: d :: chars
  | chars => chars

/- The number at the start of a text. -/
def number (chars : List Char) : List Char :=
  chars.takeWhile Char.isDigit ++
    fractionPart (chars.dropWhile Char.isDigit)

/- What follows the number at the start of a text. -/
def afterNumber (chars : List Char) : List Char :=
  afterFraction (chars.dropWhile Char.isDigit)

theorem fractionPart_append_afterFraction
    (chars : List Char) :
    fractionPart chars ++ afterFraction chars = chars := by
  unfold fractionPart afterFraction
  split
  · split
    · simp only [List.cons_append,
        List.takeWhile_append_dropWhile]
    · rfl
  · rfl

/- A number and what follows it are the whole text. -/
theorem number_append_afterNumber (chars : List Char) :
    number chars ++ afterNumber chars = chars := by
  unfold number afterNumber
  rw [List.append_assoc,
    fractionPart_append_afterFraction,
    List.takeWhile_append_dropWhile]

------------------------------------------------------------
-- String literals
------------------------------------------------------------

/- How the text behind an opening quote goes on. -/
inductive Body where
  /- An unescaped quote ends the body. -/
  | closed (body rest : List Char)
  /- A line end or the end of the text comes first. -/
  | unclosed (body rest : List Char)
  /- The text ends behind a backslash. -/
  | dangling (body : List Char)
deriving DecidableEq

namespace Body

/- The same body with characters before it. -/
def push (chars : List Char) : Body → Body
  | closed body rest => closed (chars ++ body) rest
  | unclosed body rest => unclosed (chars ++ body) rest
  | dangling body => dangling (chars ++ body)

/- The body that follows an opening quote. -/
def ofChars : List Char → Body
  | [] => .unclosed [] []
  | ['\\'] => .dangling ['\\']
  | '\\' :: c :: chars => (ofChars chars).push ['\\', c]
  | c :: chars =>
      if c = '"' then .closed [] chars
      else if c = '\n' then .unclosed [] (c :: chars)
      else (ofChars chars).push [c]

/- The characters of a body, of its end, and behind it. -/
def source : Body → List Char
  | .closed body rest => body ++ '"' :: rest
  | .unclosed body rest => body ++ rest
  | .dangling body => body

theorem source_push
    (chars : List Char)
    (b : Body) :
    (b.push chars).source = chars ++ b.source := by
  cases b <;> simp [push, source]

/- A body keeps every character of the text. -/
theorem source_ofChars (chars : List Char) :
    (ofChars chars).source = chars := by
  fun_induction ofChars chars with
  | case3 c chars ih => rw [source_push, ih]; rfl
  | case6 c chars _ _ _ _ ih => rw [source_push, ih]; rfl
  | _ => simp_all [source]

end Body

------------------------------------------------------------
-- Pieces
------------------------------------------------------------

/- What can be wrong with a text that no token begins. -/
inductive LexFault where
  | loneBang
  | unknownChar (c : Char)
  | openString
  | danglingEscape
deriving DecidableEq, Repr

namespace LexFault

/- The wording of a fault. -/
def message : LexFault → String
  | .loneBang => "Expected '=' after '!'"
  | .unknownChar c =>
      "Unrecognized character '" ++ c.toString ++ "'"
  | .openString => "Unterminated string literal"
  | .danglingEscape => "Dangling escape at end of input"

/- Only a dangling escape is noticed at its end. -/
def isAtEnd : LexFault → Bool
  | .danglingEscape => true
  | _ => false

end LexFault

/-
  What a text without trivia at its start begins with.
    * `spelled`: a token, as it is spelled, and the rest;
    * `faulty`: a fault, the characters that were passed before
      it was noticed, and the rest;
    * `nothing`: the text is empty.
-/
inductive Piece where
  | nothing
  | spelled
      (kind : TokenKind)
      (lexeme spelling rest : List Char)
  | faulty
      (fault : LexFault)
      (passed rest : List Char)
deriving DecidableEq

namespace Piece

/- A word at the start of a text. -/
def ofWord (chars : List Char) : Piece :=
  let word := chars.takeWhile continuesWord
  .spelled (kindOfWord word) word word
    (chars.dropWhile continuesWord)

/- A number at the start of a text. -/
def ofNumber (chars : List Char) : Piece :=
  .spelled .number (number chars) (number chars)
    (afterNumber chars)

/- A string literal behind its opening quote. -/
def ofBody : Body → Piece
  | .closed body rest =>
      .spelled .string (Quoted.decode body)
        ('"' :: body ++ ['"']) rest
  | .unclosed body rest =>
      .faulty .openString ('"' :: body) rest
  | .dangling body =>
      .faulty .danglingEscape ('"' :: body) []

/- A symbol of one character, or no token at all. -/
def ofSign
    (c : Char)
    (chars : List Char) : Piece :=
  match Symbol.ofChar? c with
  | some s => .spelled (.symbol s) [c] [c] chars
  | none =>
      if c = '!' then .faulty .loneBang [] (c :: chars)
      else .faulty (.unknownChar c) [] (c :: chars)

/- A symbol, the longest one that fits, or no token at all. -/
def ofSigns
    (c : Char) : List Char → Piece
  | [] => ofSign c []
  | d :: chars =>
      match Symbol.ofPair? c d with
      | some s => .spelled (.symbol s) [c, d] [c, d] chars
      | none => ofSign c (d :: chars)

/- The piece at the start of a text. -/
def ofChars : List Char → Piece
  | [] => .nothing
  | c :: chars =>
      if c = '\n' then .spelled .newline [c] [c] chars
      else if c = '"' then ofBody (Body.ofChars chars)
      else if startsWord c then ofWord (c :: chars)
      else if c.isDigit then ofNumber (c :: chars)
      else ofSigns c chars

/- The characters of a piece and behind it. -/
def source : Piece → List Char
  | .nothing => []
  | .spelled _ _ spelling rest => spelling ++ rest
  | .faulty _ passed rest => passed ++ rest

theorem source_ofSign
    (c : Char)
    (chars : List Char) :
    (ofSign c chars).source = c :: chars := by
  unfold ofSign
  split
  · rfl
  · split <;> rfl

theorem source_ofSigns
    (c : Char)
    (chars : List Char) :
    (ofSigns c chars).source = c :: chars := by
  unfold ofSigns
  split
  · exact source_ofSign c []
  · split
    · rfl
    · exact source_ofSign c _

theorem source_ofBody (b : Body) :
    (ofBody b).source = '"' :: b.source := by
  cases b <;> simp [ofBody, source, Body.source]

/- A piece keeps every character of the text. -/
theorem source_ofChars (chars : List Char) :
    (ofChars chars).source = chars := by
  unfold ofChars
  split
  · rfl
  · split
    · rfl
    split
    · simp_all [source_ofBody, Body.source_ofChars]
    split
    · simp [ofWord, source,
        List.takeWhile_append_dropWhile]
    split
    · simp [ofNumber, source, number_append_afterNumber]
    · exact source_ofSigns _ _

/- The spelling of a token is never empty. -/
theorem spelling_ne_nil
    {chars : List Char}
    {kind : TokenKind}
    {lexeme spelling rest : List Char}
    (h : ofChars chars = .spelled kind lexeme spelling rest) :
    spelling ≠ [] := by
  unfold ofChars at h
  split at h
  · cases h
  · split at h
    · cases h; simp
    split at h
    · revert h
      cases Body.ofChars _ <;>
        simp only [ofBody, spelled.injEq, reduceCtorEq,
          false_implies]
      rintro ⟨_, _, rfl, _⟩
      simp
    split at h
    · rename_i c _ _ _ hc
      have hc' : continuesWord c = true := by
        simp only [startsWord, Bool.or_eq_true] at hc
        rcases hc with hc | hc <;>
          simp [continuesWord, hc]
      simp only [ofWord, spelled.injEq] at h
      rw [← h.2.2.1, List.takeWhile_cons_of_pos hc']
      simp
    split at h
    · rename_i hc
      simp only [ofNumber, spelled.injEq, number] at h
      rw [← h.2.2.1, List.takeWhile_cons_of_pos hc]
      simp
    · unfold ofSigns ofSign at h
      repeat' split at h
      all_goals cases h
      all_goals simp

/- What follows a token is shorter than the text. -/
theorem rest_shorter
    {chars : List Char}
    {kind : TokenKind}
    {lexeme spelling rest : List Char}
    (h : ofChars chars = .spelled kind lexeme spelling rest) :
    rest.length < chars.length := by
  have hs := source_ofChars chars
  have hn := spelling_ne_nil h
  rw [h] at hs
  simp only [source] at hs
  rw [← hs, List.length_append]
  have := List.length_pos_iff.mpr hn
  omega

end Piece

end Rulebook
