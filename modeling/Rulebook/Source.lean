import Rulebook.Program.Reading
import Rulebook.Run

/-
  From a source text to its tokens, its program tree, and the
  report of its tests.

  Key definitions include:
    * `SourceError`
    * `Source.tokens`
    * `Source.program`
    * `Source.run`
-/

namespace Rulebook

/- The three kinds of errors that a source can have. -/
inductive SourceError where
  | lexical (e : LexError)
  | structural (e : ParseError)
  | evaluation (e : EvalError)
deriving DecidableEq, Repr

namespace SourceError

/- The wording of the error proper. -/
def cause : SourceError → String
  | .lexical e => e.message
  | .structural e => e.message
  | .evaluation e => e.message

/- The wording of an error with its kind. -/
def message (e : SourceError) : String :=
  let kind :=
    match e with
    | .lexical _ => "Lex error: "
    | .structural _ => "Parse error: "
    | .evaluation _ => "Evaluation error: "
  kind ++ e.cause

end SourceError

namespace Source

/- The tokens of a source. -/
def tokens
    (source : String) : Except SourceError (List Token) :=
  (tokenize source).mapError .lexical

/- The program tree of a source. -/
def program (source : String) : Except SourceError Node :=
  match tokens source with
  | .error e => .error e
  | .ok list =>
      (Reader.ofTokens list).program.1.mapError .structural

/- The report of the tests of a source. -/
def run
    (isolates : Bool)
    (source : String) : Except SourceError RunReport :=
  match program source with
  | .error e => .error e
  | .ok node =>
      ((Runner.fresh isolates).run node).result.mapError
        .evaluation

end Source

end Rulebook
