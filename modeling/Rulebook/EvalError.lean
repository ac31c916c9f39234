import Rulebook.Reading
import Rulebook.Token.Cursor

/-
  Errors in the text of an expression.

  Key definitions include:
    * `EvalFault`
    * `EvalError`
    * `EvalError.locate`
    * `EvalError.message`
-/

namespace Rulebook

/- What can be wrong with an expression. -/
inductive EvalFault where
  | lexical (fault : LexFault)
  | unexpected (expected : Expectation) (found : Token)
  | badTarget
deriving DecidableEq, Repr

/- The wording of a fault. -/
def EvalFault.message : EvalFault → String
  | .lexical fault => fault.message
  | .unexpected expected found =>
      "expected " ++ expected.text ++ ", found " ++
        if found.kind = .finish then "end of expression"
        else found.kind.name ++ " '" ++ found.lexeme ++ "'"
  | .badTarget => "invalid rule target"

/-
  A fault, the text that has it, its place in this text, and
  the place of the text in the source where this is known.
-/
structure EvalError where
  fault : EvalFault
  expression : String
  position : Position
  origin : Option Position
deriving DecidableEq, Repr

namespace EvalError

/- An error in reading the tokens of a text. -/
def ofLexError
    (expression : String)
    (e : LexError) : EvalError :=
  ⟨.lexical e.fault, expression, e.position, none⟩

/- An error in reading an expression from its tokens. -/
def ofParseError
    (expression : String)
    (e : ParseError) : EvalError :=
  ⟨.unexpected e.expected e.found, expression,
    e.found.position, none⟩

/- Tell where the text comes from, unless this is known. -/
def locate
    (place : Position)
    (e : EvalError) : EvalError :=
  { e with origin := some (e.origin.getD place) }

/- The wording of an error. -/
def message (e : EvalError) : String :=
  let origin :=
    match e.origin with
    | none => ""
    | some place => place.tag ++ " "
  origin ++ "invalid expression '" ++ e.expression ++ "': " ++
    e.fault.message ++ " (column " ++
    e.position.column.repr ++ ")"

end EvalError

end Rulebook
