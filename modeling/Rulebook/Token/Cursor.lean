import Rulebook.Token
import Rulebook.Token.Piece

/-
  Reading tokens from a text, one after the other.  After an
  error the cursor stays where the error was noticed, so that
  reading can be tried again from there.

  Key definitions include:
    * `LexError`
    * `Cursor`
    * `Cursor.next`
    * `Cursor.results`
    * `Cursor.tokens`
    * `tokenize`
-/

namespace Rulebook

------------------------------------------------------------
-- Errors
------------------------------------------------------------

/- A fault in a text, with its place. -/
structure LexError where
  fault : LexFault
  position : Position
deriving DecidableEq, Repr

/- The place and the wording of an error. -/
def LexError.message (e : LexError) : String :=
  e.position.tag ++ " " ++ e.fault.message

------------------------------------------------------------
-- Cursors
------------------------------------------------------------

/- The part of a text that is still to be read, and its place. -/
structure Cursor where
  position : Position
  rest : List Char
deriving DecidableEq, Repr

namespace Cursor

/- The start of a text. -/
def ofText (text : String) : Cursor :=
  ⟨.start, text.toList⟩

/- The cursor behind the trivia at its place. -/
def skipTrivia (cursor : Cursor) : Cursor :=
  ⟨cursor.position.after (trivia cursor.rest),
    afterTrivia cursor.rest⟩

/-
  The token that a piece is, or the error, with the cursor
  behind what was passed.
-/
def take
    (cursor : Cursor) : Piece → Except LexError Token × Cursor
  | .nothing =>
      (.ok ⟨.finish, "", cursor.position⟩, cursor)
  | .spelled kind lexeme spelling rest =>
      (.ok ⟨kind, String.ofList lexeme, cursor.position⟩,
        ⟨cursor.position.after spelling, rest⟩)
  | .faulty fault passed rest =>
      let behind := cursor.position.after passed
      let place :=
        if fault.isAtEnd then behind else cursor.position
      (.error ⟨fault, place⟩, ⟨behind, rest⟩)

/- The next token, or the error that there is none. -/
def next
    (cursor : Cursor) : Except LexError Token × Cursor :=
  let start := cursor.skipTrivia
  start.take (Piece.ofChars start.rest)

/- What a number of attempts in a row give. -/
def results :
    Nat → Cursor → List (Except LexError Token)
  | 0, _ => []
  | n + 1, cursor =>
      cursor.next.1 :: results n cursor.next.2

/- Only the end of the text leaves the rest as long as it was. -/
theorem next_shorter
    {cursor behind : Cursor}
    {t : Token}
    (h : cursor.next = (.ok t, behind))
    (ht : t.kind ≠ .finish) :
    behind.rest.length < cursor.rest.length := by
  have hlen :
      (afterTrivia cursor.rest).length ≤
        cursor.rest.length := by
    conv => rhs; rw [← trivia_append_afterTrivia cursor.rest]
    simp
  have hn :
      cursor.next =
        cursor.skipTrivia.take
          (Piece.ofChars cursor.skipTrivia.rest) :=
    rfl
  rw [hn] at h
  cases hp : Piece.ofChars cursor.skipTrivia.rest with
  | nothing =>
      rw [hp] at h
      simp only [take, Prod.mk.injEq, Except.ok.injEq] at h
      rw [← h.1] at ht
      exact absurd rfl ht
  | spelled kind lexeme spelling rest =>
      rw [hp] at h
      simp only [take, Prod.mk.injEq] at h
      rw [← h.2]
      exact Nat.lt_of_lt_of_le (Piece.rest_shorter hp) hlen
  | faulty fault passed rest =>
      rw [hp] at h
      simp [take] at h

/-
  All tokens from a cursor on.  The last one, and no other, is
  the end of the text.
-/
def tokens
    (cursor : Cursor) : Except LexError (List Token) :=
  match _ : cursor.next with
  | (.error e, _) => .error e
  | (.ok t, behind) =>
      if _ : t.kind = .finish then .ok [t]
      else (tokens behind).map (t :: ·)
termination_by cursor.rest.length
decreasing_by exact next_shorter ‹_› ‹_›

end Cursor

/- The tokens of a text. -/
def tokenize (text : String) : Except LexError (List Token) :=
  (Cursor.ofText text).tokens

end Rulebook
