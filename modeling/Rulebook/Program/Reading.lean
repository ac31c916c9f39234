import Rulebook.Program.Node
import Rulebook.Reading

/-
  Reading programs: rules and tests, each beginning on a line
  of its own or right behind the one before.  Expressions are
  kept as text, from their first token to the end of the line.

  Key definitions include:
    * `Node.ruleReading`
    * `Node.testReading`
    * `Node.items`
    * `Reader.program`
-/

namespace Rulebook.Node

open Reading

------------------------------------------------------------
-- Rules
------------------------------------------------------------

/-
  The node of an expression: the spellings of its tokens, at
  the place of the first of them, or at another place if there
  are none.
-/
def ofTokens
    (kind : NodeKind)
    (tokens : List Token)
    (otherwise : Position) : Node :=
  { kind
    content := spellingOfTokens tokens
    position := (tokens.head?.map (·.position)).getD otherwise
    children := [] }

/- The path that a rule assigns to. -/
def targetReading : Reading Node := do
  let first ← expect .identifier .targetField
  let names ← moreNames
  pure
    { kind := .target
      content := ".".intercalate (first.lexeme :: names)
      position := first.position
      children := [] }

/- What follows the word that a rule begins with. -/
def ruleReading (start : Position) : Reading Node := do
  let name ← expect .string .ruleName
  let whenWord ← expect (.keyword .when) .whenWord
  let condition ← line (· = .keyword .andThen)
  let thenWord ← expect (.keyword .andThen) .thenWord
  let target ← targetReading
  let sign ← expect (.symbol .assign) .assignSign
  let value ← line fun _ => false
  skip .newline
  pure
    { kind := .rule
      content := name.lexeme
      position := start
      children :=
        [ofTokens .when condition whenWord.position,
         { kind := .set
           content := ""
           position := thenWord.position
           children :=
             [target, ofTokens .value value sign.position] }] }

------------------------------------------------------------
-- Tests
------------------------------------------------------------

/- The kind of the clause that a word begins. -/
def clauseKind? : TokenKind → Option NodeKind
  | .keyword .given => some .given
  | .keyword .expect => some .expect
  | _ => none

/- The tokens up to a line end. -/
def lineOf (tokens : List Token) : List Token :=
  tokens.takeWhile (·.kind != .newline)

/- The tokens behind a line end. -/
def afterLine (tokens : List Token) : List Token :=
  (tokens.dropWhile (·.kind != .newline)).drop 1

theorem length_afterLine_le (tokens : List Token) :
    (afterLine tokens).length ≤ tokens.length := by
  have :=
    (List.dropWhile_suffix
      (l := tokens) (·.kind != .newline)).length_le
  simp only [afterLine, List.length_drop]
  omega

/-
  The clauses of a test, each on a line of its own, up to the
  closing brace.
-/
def clauses : Reading (List Node)
  | [] => .error (.ahead .closingBrace [])
  | t :: tokens =>
      match clauseKind? t.kind with
      | some kind =>
          let node : Node :=
            { kind
              content := spellingOfTokens (lineOf tokens)
              position := t.position
              children := [] }
          match clauses (afterLine tokens) with
          | .ok (nodes, rest) => .ok (node :: nodes, rest)
          | .error refusal => .error refusal
      | none =>
          if t.kind = .symbol .rightBrace then
            .ok ([], tokens)
          else if t.kind = .newline then
            clauses tokens
          else
            .error (.ahead .clauseOrClosingBrace (t :: tokens))
termination_by tokens => tokens.length
decreasing_by
  · have := length_afterLine_le tokens
    simp only [List.length_cons]
    omega
  · simp

/- What follows the word that a test begins with. -/
def testReading (start : Position) : Reading Node := do
  let name ← expect .string .testName
  let _ ← expect (.symbol .leftBrace) .openingBrace
  let children ← clauses
  skip .newline
  pure
    { kind := .test
      content := name.lexeme
      position := start
      children }

------------------------------------------------------------
-- What Is Left
------------------------------------------------------------

theorem leavesSuffix_targetReading :
    LeavesSuffix targetReading := by
  refine (leavesSuffix_expect _ _).bind fun _ => ?_
  refine leavesSuffix_moreNames.bind fun _ => ?_
  exact leavesSuffix_pure _

/- A rule takes tokens from the front only. -/
theorem leavesSuffix_ruleReading (start : Position) :
    LeavesSuffix (ruleReading start) := by
  refine (leavesSuffix_expect _ _).bind fun _ => ?_
  refine (leavesSuffix_expect _ _).bind fun _ => ?_
  refine (leavesSuffix_line _).bind fun _ => ?_
  refine (leavesSuffix_expect _ _).bind fun _ => ?_
  refine leavesSuffix_targetReading.bind fun _ => ?_
  refine (leavesSuffix_expect _ _).bind fun _ => ?_
  refine (leavesSuffix_line _).bind fun _ => ?_
  refine (leavesSuffix_skip _).bind fun _ => ?_
  exact leavesSuffix_pure _

theorem afterLine_suffix (tokens : List Token) :
    afterLine tokens <:+ tokens :=
  (List.drop_suffix 1 _).trans (List.dropWhile_suffix _)

theorem leavesSuffix_clauses : LeavesSuffix clauses := by
  intro tokens
  fun_induction clauses tokens with
  | case2 t tokens kind _ _ nodes rest hRun ih =>
      intro value rest' h
      cases h
      exact (ih _ _ hRun).trans
        ((afterLine_suffix tokens).trans
          (List.suffix_cons t tokens))
  | case4 t tokens _ _ =>
      intro value rest h
      cases h
      exact List.suffix_cons t _
  | case5 t tokens _ _ _ ih =>
      intro value rest h
      exact (ih value rest h).trans
        (List.suffix_cons t tokens)
  | _ =>
      intro value rest h
      cases h

/- A test takes tokens from the front only. -/
theorem leavesSuffix_testReading (start : Position) :
    LeavesSuffix (testReading start) := by
  refine (leavesSuffix_expect _ _).bind fun _ => ?_
  refine (leavesSuffix_expect _ _).bind fun _ => ?_
  refine leavesSuffix_clauses.bind fun _ => ?_
  refine (leavesSuffix_skip _).bind fun _ => ?_
  exact leavesSuffix_pure _

------------------------------------------------------------
-- Programs
------------------------------------------------------------

/-
  The rules and tests of a program, up to the end of the
  tokens.
-/
def items : List Token → Except Refusal (List Node)
  | [] => .ok []
  | t :: tokens =>
      if t.kind = .newline then items tokens
      else if t.kind = .keyword .rule then
        match _ : ruleReading t.position tokens with
        | .ok (node, rest) => (items rest).map (node :: ·)
        | .error refusal => .error refusal
      else if t.kind = .keyword .test then
        match _ : testReading t.position tokens with
        | .ok (node, rest) => (items rest).map (node :: ·)
        | .error refusal => .error refusal
      else
        .error (.ahead .ruleOrTest (t :: tokens))
termination_by tokens => tokens.length
decreasing_by
  · simp
  · exact Nat.lt_succ_of_le
      (leavesSuffix_ruleReading _ _ _ _ ‹_›).length_le
  · exact Nat.lt_succ_of_le
      (leavesSuffix_testReading _ _ _ _ ‹_›).length_le

/- A program, which begins at a place. -/
def programReading (start : Position) : Reading Node :=
  fun tokens =>
    (items tokens).map fun children =>
      ({ kind := .program
         content := ""
         position := start
         children }, [])

end Rulebook.Node

namespace Rulebook

/- The program ahead of a reader. -/
def Reader.program
    (reader : Reader) : Except ParseError Node × Reader :=
  reader.run (Node.programReading reader.current.position)

end Rulebook
