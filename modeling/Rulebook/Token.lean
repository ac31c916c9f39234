import Rulebook.Text.Position
import Rulebook.Text.Quoted
import Rulebook.Text.Shown
import Rulebook.Token.Kind

/-
  Tokens.

  Key definitions include:
    * `Token`
    * `Token.spelling`
    * `Token.label`
    * `Token.shown`
    * `spellingOfTokens`
-/

namespace Rulebook

/-
  A token with its place.  The lexeme is the text of the token
  as it was written, except for a string, of which it is the
  contents.
-/
structure Token where
  kind : TokenKind
  lexeme : String
  position : Position
deriving DecidableEq, Repr

namespace Token

/-
  A text that is read as the token again: a string gets its
  quotes and escapes back.
-/
def spelling (t : Token) : String :=
  if t.kind = .string then Quoted.literal t.lexeme
  else t.lexeme

/- Kind, lexeme and place; a line end has no lexeme to show. -/
def label (t : Token) : String :=
  let lexeme :=
    if t.kind = .newline then ""
    else "('" ++ t.lexeme ++ "')"
  t.kind.name ++ lexeme ++ "@" ++ t.position.label

/- The lexeme as tables show it. -/
def shown (t : Token) : String :=
  if t.kind = .newline then "\\n" else Shown.bare t.lexeme

end Token

/- The spellings of tokens with a blank between them. -/
def spellingOfTokens (tokens : List Token) : String :=
  " ".intercalate (tokens.map Token.spelling)

end Rulebook
