import Rulebook.Event
import Rulebook.Expr.Reading

/-
  From the text of an expression to its tree, and from the text
  of a `given` line to its assignments.  Line ends in such a
  text have no meaning.

  Key definitions include:
    * `compile`
    * `evaluate`
    * `Assignment`
    * `splitCommas`
    * `compileFragment`
    * `compileAssignments`
    * `Environment.assign`
-/

namespace Rulebook

------------------------------------------------------------
-- Expressions
------------------------------------------------------------

/- The reader of the tokens of a text, line ends dropped. -/
def expressionReader
    (text : String) : Except EvalError Reader :=
  match tokenize text with
  | .error e => .error (.ofLexError text e)
  | .ok tokens =>
      .ok (.ofTokens (tokens.filter (·.kind != .newline)))

/- The expression of a text. -/
def compile (text : String) : Except EvalError Expr :=
  match expressionReader text with
  | .error e => .error e
  | .ok reader =>
      (reader.run Expr.readingAll).1.mapError
        (.ofParseError text)

/- The value of the expression of a text. -/
def evaluate
    (text : String)
    (env : Environment) : Except EvalError Value :=
  (compile text).map (·.eval env)

/- What compiling a text reports, whatever its result. -/
def tokenEvents (text : String) : List Event :=
  match tokenize text with
  | .error _ => []
  | .ok tokens => [.tokenized tokens.length]

------------------------------------------------------------
-- Fragments
------------------------------------------------------------

/- A path, and the expression of the value that it gets. -/
structure Assignment where
  path : FieldPath
  value : Expr

/- The depth of parentheses behind a token. -/
def depthAfter
    (depth : Nat) : TokenKind → Nat
  | .symbol .leftParen => depth + 1
  | .symbol .rightParen => depth - 1
  | _ => depth

/-
  The parts of a line between the commas outside parentheses.
  A closing parenthesis too many does not count.
-/
def splitCommas
    (depth : Nat) : List Token → List (List Token)
  | [] => [[]]
  | t :: tokens =>
      if t.kind = .symbol .comma ∧ depth = 0 then
        [] :: splitCommas 0 tokens
      else
        match splitCommas (depthAfter depth t.kind) tokens with
        | [] => [[t]]
        | part :: parts => (t :: part) :: parts

/- A token that is spelled with an equals sign. -/
def holdsEquals (t : Token) : Bool :=
  match t.kind with
  | .symbol s => s.holdsEquals
  | _ => false

/- A path with no token behind it. -/
def targetReading : Reading FieldPath := do
  let p ← Reading.path
  Reading.finish .assignSign
  pure p

/- An equals sign, and an expression behind it. -/
def sourceReading : Reading Expr := do
  Reading.skip (.symbol .assign)
  Expr.readingAll

/-
  The assignment of a part.  A part without any equals sign
  assigns nothing; otherwise the first sign with one has to be
  the plain sign.
-/
def compileFragment
    (fragment : List Token) :
    Except ParseError (Option Assignment) :=
  match fragment.dropWhile (!holdsEquals ·) with
  | [] => .ok none
  | sign :: source =>
      if sign.kind = .symbol .assign then do
        let target := fragment.takeWhile (!holdsEquals ·)
        let path ←
          ((Reader.ofTokens target).run targetReading).1
        let value ←
          ((Reader.ofTokens (sign :: source)).run
            sourceReading).1
        pure (some ⟨path, value⟩)
      else
        .error ⟨.assignSign, sign⟩

/- The assignments of several parts. -/
def compileFragments :
    List (List Token) → Except ParseError (List Assignment)
  | [] => .ok []
  | fragment :: fragments => do
      let first ← compileFragment fragment
      let others ← compileFragments fragments
      pure (first.toList ++ others)

/- The parts of a `given` line. -/
def fragmentsOf (reader : Reader) : List (List Token) :=
  splitCommas 0 reader.ahead

/- The assignments of a `given` line. -/
def compileAssignments
    (text : String) : Except EvalError (List Assignment) :=
  match expressionReader text with
  | .error e => .error e
  | .ok reader =>
      (compileFragments (fragmentsOf reader)).mapError
        (.ofParseError text)

/-
  The parts that are passed over, up to the first one that
  cannot be compiled.  Empty parts are no matter.
-/
def skippedFragments
    (fragments : List (List Token)) : List (List Token) :=
  (fragments.takeWhile
      fun fragment => (compileFragment fragment).isOk).filter
    fun fragment =>
      !fragment.isEmpty && !fragment.any holdsEquals

/- What compiling a `given` line reports. -/
def assignmentEvents (text : String) : List Event :=
  tokenEvents text ++
    match expressionReader text with
    | .error _ => []
    | .ok reader =>
        (skippedFragments (fragmentsOf reader)).map .skipped

namespace Environment

/- Each assignment sees the ones before it. -/
def assign
    (env : Environment)
    (assignments : List Assignment) : Environment :=
  assignments.foldl
    (fun env a => env.set a.path (a.value.eval env)) env

end Environment

end Rulebook
