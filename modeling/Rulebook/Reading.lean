import Rulebook.FieldPath
import Rulebook.Token

/-
  Reading a list of tokens from its front.  A reading gives a
  result and the tokens behind it, or refuses the token that
  cannot stand where it stands.

  Key definitions include:
    * `Expectation`
    * `ParseError`
    * `Refusal`
    * `Reading`
    * `Reading.LeavesSuffix`
    * `Reader`
    * `Reader.run`
-/

namespace Rulebook

------------------------------------------------------------
-- Errors
------------------------------------------------------------

/- What can be expected at a place. -/
inductive Expectation where
  | expression
  | numberLiteral
  | closingParen
  | endOfExpression
  | fieldName
  | fieldNameAfterDot
  | fieldPath
  | ruleOrTest
  | ruleName
  | whenWord
  | thenWord
  | targetField
  | assignSign
  | testName
  | openingBrace
  | closingBrace
  | clauseOrClosingBrace
  | phrase (text : String)
deriving DecidableEq, Repr

/- The wording of an expectation. -/
def Expectation.text : Expectation → String
  | .expression => "expression"
  | .numberLiteral => "number literal"
  | .closingParen => "')'"
  | .endOfExpression => "end of expression"
  | .fieldName => "field name"
  | .fieldNameAfterDot => "field name after '.'"
  | .fieldPath => "field path"
  | .ruleOrTest => "'rule' or 'test'"
  | .ruleName => "rule name string"
  | .whenWord => "'when'"
  | .thenWord => "'then'"
  | .targetField => "target field name"
  | .assignSign => "'='"
  | .testName => "test name string"
  | .openingBrace => "'\x7b'"
  | .closingBrace => "'\x7d'"
  | .clauseOrClosingBrace => "'given', 'expect' or '\x7d'"
  | .phrase text => text

/- What was expected, and the token that was found instead. -/
structure ParseError where
  expected : Expectation
  found : Token
deriving DecidableEq, Repr

namespace ParseError

/-
  The wording of an error.  A line end and the end of the text
  are named without a lexeme.
-/
def message (e : ParseError) : String :=
  let lexeme :=
    if e.found.kind = .newline || e.found.kind = .finish then
      ""
    else
      " '" ++ e.found.lexeme ++ "'"
  e.found.position.tag ++ " expected " ++ e.expected.text ++
    ", found " ++ e.found.kind.name ++ lexeme

end ParseError

------------------------------------------------------------
-- Readings
------------------------------------------------------------

/-
  A refusal: what was expected, the token that was found, and
  the tokens from the place where the reading stopped.  No token
  is found at the end of the list.
-/
structure Refusal where
  expected : Expectation
  found : Option Token
  rest : List Token
deriving DecidableEq, Repr

/- The refusal of the first of the tokens ahead. -/
def Refusal.ahead
    (expected : Expectation)
    (tokens : List Token) : Refusal :=
  ⟨expected, tokens.head?, tokens⟩

/- A reading takes tokens from the front of a list. -/
abbrev Reading (α : Type) : Type :=
  StateT (List Token) (Except Refusal) α

namespace Reading

variable {α β : Type}

/- A token of a kind. -/
def expect
    (kind : TokenKind)
    (expected : Expectation) : Reading Token
  | [] => .error (.ahead expected [])
  | t :: tokens =>
      if t.kind = kind then .ok (t, tokens)
      else .error (.ahead expected (t :: tokens))

/- The end of the tokens. -/
def finish (expected : Expectation) : Reading Unit
  | [] => .ok ((), [])
  | t :: tokens => .error (.ahead expected (t :: tokens))

/- A token of a kind, if there is one. -/
def skip (kind : TokenKind) : Reading Unit
  | [] => .ok ((), [])
  | t :: tokens =>
      if t.kind = kind then .ok ((), tokens)
      else .ok ((), t :: tokens)

/- The tokens up to a line end, or up to a kind to stop at. -/
def line (stops : TokenKind → Bool) : Reading (List Token) :=
  fun tokens =>
    let goesOn := fun t : Token =>
      t.kind != .newline && !stops t.kind
    .ok (tokens.takeWhile goesOn, tokens.dropWhile goesOn)

/- The names that follow a name, each behind a dot. -/
def moreNames : Reading (List String)
  | [] => .ok ([], [])
  | [d] =>
      if d.kind = .symbol .dot then
        .error (.ahead .fieldNameAfterDot [])
      else
        .ok ([], [d])
  | d :: t :: tokens =>
      if d.kind = .symbol .dot then
        if t.kind = .identifier then
          match moreNames tokens with
          | .ok (names, rest) => .ok (t.lexeme :: names, rest)
          | .error refusal => .error refusal
        else
          .error (.ahead .fieldNameAfterDot (t :: tokens))
      else
        .ok ([], d :: t :: tokens)

/- A dotted path. -/
def path : Reading FieldPath := do
  let first ← expect .identifier .fieldName
  let names ← moreNames
  match FieldPath.ofSegments? (first.lexeme :: names) with
  | some p => pure p
  | none => fun tokens => .error (.ahead .fieldPath tokens)

------------------------------------------------------------
-- What A Reading Leaves
------------------------------------------------------------

/-
  What a reading leaves is the end of what it was given: it
  takes tokens from the front only.
-/
def LeavesSuffix (reading : Reading α) : Prop :=
  ∀ tokens value rest,
    reading tokens = .ok (value, rest) → rest <:+ tokens

theorem leavesSuffix_pure (value : α) :
    LeavesSuffix (pure value : Reading α) := by
  intro tokens v rest h
  cases h
  exact List.suffix_rfl

theorem LeavesSuffix.bind
    {first : Reading α}
    {next : α → Reading β}
    (hFirst : LeavesSuffix first)
    (hNext : ∀ value, LeavesSuffix (next value)) :
    LeavesSuffix (first >>= next) := by
  intro tokens value rest h
  cases hRun : first tokens with
  | error refusal =>
      simp [Bind.bind, StateT.bind, hRun, Except.bind] at h
  | ok result =>
      obtain ⟨v, middle⟩ := result
      have hRest : next v middle = .ok (value, rest) := by
        simpa [Bind.bind, StateT.bind, hRun, Except.bind]
          using h
      exact (hNext v middle value rest hRest).trans
        (hFirst tokens v middle hRun)

theorem leavesSuffix_expect
    (kind : TokenKind)
    (expected : Expectation) :
    LeavesSuffix (expect kind expected) := by
  intro tokens value rest h
  cases tokens with
  | nil => cases h
  | cons t tokens =>
      simp only [expect] at h
      split at h
      · cases h; exact List.suffix_cons _ _
      · cases h

theorem leavesSuffix_skip (kind : TokenKind) :
    LeavesSuffix (skip kind) := by
  intro tokens value rest h
  cases tokens with
  | nil => cases h; exact List.suffix_rfl
  | cons t tokens =>
      simp only [skip] at h
      split at h
      · cases h; exact List.suffix_cons _ _
      · cases h; exact List.suffix_rfl

theorem leavesSuffix_line (stops : TokenKind → Bool) :
    LeavesSuffix (line stops) := by
  intro tokens value rest h
  cases h
  exact List.dropWhile_suffix _

theorem leavesSuffix_moreNames : LeavesSuffix moreNames := by
  intro tokens
  fun_induction moreNames tokens with
  | case4 d t tokens _ _ names rest hRun ih =>
      intro value rest' h
      cases h
      exact (ih names rest hRun).trans
        ((List.suffix_cons t tokens).trans
          (List.suffix_cons d (t :: tokens)))
  | _ =>
      intro value rest h
      first
        | cases h; exact List.suffix_rfl
        | cases h

/- A reading that succeeds only after taking a token. -/
def TakesToken (reading : Reading α) : Prop :=
  ∀ tokens value rest,
    reading tokens = .ok (value, rest) →
      rest.length < tokens.length

theorem takesToken_expect
    (kind : TokenKind)
    (expected : Expectation) :
    TakesToken (expect kind expected) := by
  intro tokens value rest h
  cases tokens with
  | nil => cases h
  | cons t tokens =>
      simp only [expect] at h
      split at h
      · cases h; exact Nat.lt_succ_self _
      · cases h

theorem TakesToken.bind
    {first : Reading α}
    {next : α → Reading β}
    (hFirst : TakesToken first)
    (hNext : ∀ value, LeavesSuffix (next value)) :
    TakesToken (first >>= next) := by
  intro tokens value rest h
  cases hRun : first tokens with
  | error refusal =>
      simp [Bind.bind, StateT.bind, hRun, Except.bind] at h
  | ok result =>
      obtain ⟨v, middle⟩ := result
      have hRest : next v middle = .ok (value, rest) := by
        simpa [Bind.bind, StateT.bind, hRun, Except.bind]
          using h
      exact Nat.lt_of_le_of_lt
        (hNext v middle value rest hRest).length_le
        (hFirst tokens v middle hRun)

/- A path takes at least its first name. -/
theorem takesToken_path : TakesToken path := by
  refine TakesToken.bind (takesToken_expect _ _) ?_
  intro first
  refine LeavesSuffix.bind leavesSuffix_moreNames ?_
  intro names
  split
  · exact leavesSuffix_pure _
  · intro tokens value rest h
    cases h

end Reading

------------------------------------------------------------
-- Readers
------------------------------------------------------------

/-
  The tokens ahead of a reader, and the token for their end,
  which is found again and again but never taken.
-/
structure Reader where
  ahead : List Token
  stop : Token
deriving DecidableEq, Repr

namespace Reader

variable {α : Type}

/-
  The end behind tokens that hold none: one column behind the
  last of them, or as many as its spelling has.
-/
def endOf (tokens : List Token) : Token :=
  match tokens.getLast? with
  | none => ⟨.finish, "", .start⟩
  | some t =>
      let width := max t.spelling.length 1
      ⟨.finish, "",
        ⟨t.position.line, t.position.column + width⟩⟩

/- The reader of tokens, as far as the first end in them. -/
def ofTokens (tokens : List Token) : Reader :=
  { ahead := tokens.takeWhile (·.kind != .finish)
    stop :=
      (tokens.find? (·.kind == .finish)).getD (endOf tokens) }

/- The token ahead. -/
def current (reader : Reader) : Token :=
  reader.ahead.head?.getD reader.stop

/-
  Read from the tokens ahead.  After an error the reader stays
  where the reading stopped.
-/
def run
    (reading : Reading α)
    (reader : Reader) : Except ParseError α × Reader :=
  match reading reader.ahead with
  | .ok (value, rest) =>
      (.ok value, { reader with ahead := rest })
  | .error refusal =>
      (.error
        ⟨refusal.expected,
          refusal.found.getD reader.stop⟩,
        { reader with ahead := refusal.rest })

/-
  Take the token ahead if it is of a kind.  The end is of its
  kind, but stays.
-/
def consumeIf
    (kind : TokenKind)
    (reader : Reader) : Bool × Reader :=
  match reader.ahead with
  | [] => (kind == reader.stop.kind, reader)
  | t :: tokens =>
      if t.kind = kind then
        (true, { reader with ahead := tokens })
      else
        (false, reader)

end Reader

end Rulebook
