import Rulebook.Program.Reading
import Rulebook.Proofs.Expr.Refusals

/-
  Calls to a reader of any tokens, one after the other and past
  errors.  Each of them leads on among the tokens before the
  first end, and finds its errors where it leaves the reader.

  Key definitions include:
    * `Reader.sealed`
    * `Call`
    * `Reader.answer`
    * `Reader.Later`
    * `Reader.Moves`

  Main results:
    * `Node.orderly_programReading`
    * `Reader.later_answer`
    * `Reader.later_afterCalls`
    * `Reader.moves_of_calls`
-/

namespace Rulebook

------------------------------------------------------------
-- Refusals
------------------------------------------------------------

namespace Reading

/- What a refusal leaves is the end of the tokens. -/
theorem Refuses.suffix
    {tokens : List Token}
    {refusal : Refusal}
    (h : Refuses tokens refusal) : refusal.rest <:+ tokens := by
  cases h with
  | @number before rest t hKind hUnread =>
      rw [List.append_cons]
      exact List.suffix_append _ _
  | path hEmpty => exact List.suffix_append _ _
  | ahead hNumber hPath => exact List.suffix_append _ _

/- The token ahead is found, unless a number is. -/
theorem Refuses.found_eq_head?
    {tokens : List Token}
    {refusal : Refusal}
    (h : Refuses tokens refusal)
    (hExpected : refusal.expected ≠ .numberLiteral) :
    refusal.found = refusal.rest.head? := by
  cases h with
  | number hKind hUnread => exact absurd rfl hExpected
  | path hEmpty => rfl
  | ahead hNumber hPath => rfl

/- A number is found right before what is left. -/
theorem Refuses.exists_number
    {tokens : List Token}
    {refusal : Refusal}
    (h : Refuses tokens refusal)
    (hExpected : refusal.expected = .numberLiteral) :
    ∃ before t,
      tokens = before ++ t :: refusal.rest ∧
        refusal.found = some t := by
  cases h with
  | @number before rest t hKind hUnread =>
      exact ⟨before, t, rfl, rfl⟩
  | path hEmpty => cases hExpected
  | ahead hNumber hPath => exact absurd hExpected hNumber

end Reading

------------------------------------------------------------
-- Expressions
------------------------------------------------------------

namespace Expr

open Reading

/- An expression takes at least its first token. -/
theorem takesToken_reading : TakesToken reading := by
  intro tokens e rest h
  unfold reading at h
  cases hRead : readLevel .or tokens with
  | read found left shorter =>
      rw [hRead] at h
      cases h
      exact shorter
  | refused refusal =>
      rw [hRead] at h
      cases h

theorem takesToken_readingAll : TakesToken readingAll := by
  refine takesToken_reading.bind fun _ => ?_
  refine (leavesSuffix_finish _).bind fun _ => ?_
  exact leavesSuffix_pure _

end Expr

------------------------------------------------------------
-- Programs
------------------------------------------------------------

namespace Node

open Reading

theorem orderly_targetReading : Orderly targetReading := by
  refine (orderly_expect (by simp) (by simp)).bind fun _ => ?_
  refine orderly_moreNames.bind fun _ => ?_
  exact orderly_pure _

theorem orderly_ruleReading (start : Position) :
    Orderly (ruleReading start) := by
  refine (orderly_expect (by simp) (by simp)).bind fun _ => ?_
  refine (orderly_expect (by simp) (by simp)).bind fun _ => ?_
  refine (orderly_line _).bind fun _ => ?_
  refine (orderly_expect (by simp) (by simp)).bind fun _ => ?_
  refine orderly_targetReading.bind fun _ => ?_
  refine (orderly_expect (by simp) (by simp)).bind fun _ => ?_
  refine (orderly_line _).bind fun _ => ?_
  refine (orderly_skip _).bind fun _ => ?_
  exact orderly_pure _

/- Clauses are refused where no line can begin. -/
theorem refuses_clauses
    {tokens : List Token}
    {refusal : Refusal}
    (h : clauses tokens = .error refusal) :
    Refuses tokens refusal := by
  fun_induction clauses tokens with
  | case1 =>
      cases h
      exact .first (by simp) (by simp)
  | case2 t tokens kind hKind node nodes rest hRun => cases h
  | case3 t tokens kind hKind found hRun ih =>
      cases h
      rcases afterLine_suffix tokens with ⟨line, hLine⟩
      have hBehind := (ih hRun).behind (t :: line)
      rw [List.cons_append, hLine] at hBehind
      exact hBehind
  | case4 t tokens hKind hClosing => cases h
  | case5 t tokens hKind hClosing hLine ih =>
      exact (ih h).behind [t]
  | case6 t tokens hKind hClosing hLine =>
      cases h
      exact .first (by simp) (by simp)

theorem orderly_clauses : Orderly clauses where
  leaves := leavesSuffix_clauses
  refuses _ _ := refuses_clauses

theorem orderly_testReading (start : Position) :
    Orderly (testReading start) := by
  refine (orderly_expect (by simp) (by simp)).bind fun _ => ?_
  refine (orderly_expect (by simp) (by simp)).bind fun _ => ?_
  refine orderly_clauses.bind fun _ => ?_
  refine (orderly_skip _).bind fun _ => ?_
  exact orderly_pure _

/- Items are refused where their parts are. -/
theorem refuses_items
    {tokens : List Token}
    {refusal : Refusal}
    (h : items tokens = .error refusal) :
    Refuses tokens refusal := by
  fun_induction items tokens with
  | case1 => cases h
  | case2 t tokens hLine ih => exact (ih h).behind [t]
  | case3 t tokens hLine hRule node rest hRun ih =>
      rcases (orderly_ruleReading _).leaves _ _ _ hRun with
        ⟨taken, rfl⟩
      exact (ih (map_eq_error_iff.mp h)).behind (t :: taken)
  | case4 t tokens hLine hRule found hRun =>
      cases h
      exact
        ((orderly_ruleReading _).refuses _ _ hRun).behind [t]
  | case5 t tokens hLine hRule hTest node rest hRun ih =>
      rcases (orderly_testReading _).leaves _ _ _ hRun with
        ⟨taken, rfl⟩
      exact (ih (map_eq_error_iff.mp h)).behind (t :: taken)
  | case6 t tokens hLine hRule hTest found hRun =>
      cases h
      exact
        ((orderly_testReading _).refuses _ _ hRun).behind [t]
  | case7 t tokens hLine hRule hTest =>
      cases h
      exact .first (by simp) (by simp)

/- A program takes all tokens, or is refused where an item is. -/
theorem orderly_programReading (start : Position) :
    Orderly (programReading start) where
  leaves tokens node rest h := by
    rcases map_eq_ok_iff.mp h with ⟨nodes, _, hRest⟩
    cases hRest
    exact List.nil_suffix
  refuses _ _ h := refuses_items (map_eq_error_iff.mp h)

end Node

------------------------------------------------------------
-- Calls
------------------------------------------------------------

/- What a reader can be asked for. -/
inductive Call where
  | consumeIf (kind : TokenKind)
  | expectEnd (expected : String)
  | path
  | expression
  | wholeExpression
  | program
deriving DecidableEq, Repr

/- What it answers. -/
inductive Answer where
  | consumed (taken : Bool)
  | ended
  | path (p : FieldPath)
  | expression (e : Expr)
  | program (tree : Node)
  | refused (e : ParseError)

/- A value in the form of an answer, or an error. -/
def Answer.ofResult
    {α : Type}
    (give : α → Answer) : Except ParseError α → Answer
  | .ok value => give value
  | .error e => .refused e

namespace Reader

open Reading

variable {α : Type}

/- The answer from a reading, and the reader behind it. -/
def ask
    (reading : Reading α)
    (give : α → Answer)
    (reader : Reader) : Answer × Reader :=
  let ran := reader.run reading
  (.ofResult give ran.1, ran.2)

/- The answer to a call, and the reader behind it. -/
def answer
    (reader : Reader) : Call → Answer × Reader
  | .consumeIf kind =>
      let took := reader.consumeIf kind
      (.consumed took.1, took.2)
  | .expectEnd expected =>
      reader.ask (.finish (.phrase expected)) fun _ => .ended
  | .path => reader.ask .path .path
  | .expression => reader.ask Expr.reading .expression
  | .wholeExpression => reader.ask Expr.readingAll .expression
  | .program =>
      let ran := reader.program
      (.ofResult .program ran.1, ran.2)

/- The reader behind some calls in a row. -/
def afterCalls
    (reader : Reader)
    (calls : List Call) : Reader :=
  calls.foldl (fun reader call => (reader.answer call).2) reader

/-
  A reader further on: some of the tokens ahead are taken, and
  the end is the same.
-/
structure Later (reader next : Reader) : Prop where
  ahead : next.ahead <:+ reader.ahead
  stop : next.stop = reader.stop

namespace Later

variable {reader next last : Reader}

theorem refl (reader : Reader) : Later reader reader :=
  ⟨List.suffix_rfl, rfl⟩

theorem trans
    (h : Later reader next)
    (hLast : Later next last) : Later reader last :=
  ⟨hLast.ahead.trans h.ahead, hLast.stop.trans h.stop⟩

end Later

/- A reading that is orderly leads on. -/
theorem later_run
    {reading : Reading α}
    (h : reading.Orderly)
    (reader : Reader) :
    Later reader (reader.run reading).2 := by
  unfold run
  cases hRead : reading reader.ahead with
  | ok result => exact ⟨h.leaves _ _ _ hRead, rfl⟩
  | error refusal => exact ⟨(h.refuses _ _ hRead).suffix, rfl⟩

/- So does taking a token of a kind. -/
theorem later_consumeIf
    (kind : TokenKind)
    (reader : Reader) :
    Later reader (reader.consumeIf kind).2 := by
  unfold consumeIf
  split
  · exact .refl reader
  · rename_i t tokens hAhead
    split
    · refine ⟨?_, rfl⟩
      rw [hAhead]
      exact List.suffix_cons t tokens
    · exact .refl reader

/- Every call leads on. -/
theorem later_answer
    (reader : Reader)
    (call : Call) : Later reader (reader.answer call).2 := by
  cases call with
  | consumeIf kind => exact later_consumeIf kind reader
  | expectEnd expected =>
      exact later_run (orderly_finish (by simp) (by simp)) reader
  | path => exact later_run orderly_path reader
  | expression => exact later_run Expr.orderly_reading reader
  | wholeExpression =>
      exact later_run Expr.orderly_readingAll reader
  | program =>
      exact later_run (Node.orderly_programReading _) reader

/- So do calls in a row, whatever the answers are. -/
theorem later_afterCalls
    (reader : Reader)
    (calls : List Call) :
    Later reader (reader.afterCalls calls) := by
  induction calls generalizing reader with
  | nil => exact .refl reader
  | cons call calls ih =>
      exact (later_answer reader call).trans (ih _)

------------------------------------------------------------
-- Tokens And Their First End
------------------------------------------------------------

/- Tokens with an end behind them, if none is the last of them. -/
def sealed (tokens : List Token) : List Token :=
  if tokens.getLast?.any (·.kind == .finish) then tokens
  else tokens ++ [endOf tokens]

/- The first end stands behind all that a reader has ahead. -/
theorem exists_sealed (tokens : List Token) :
    ∃ beyond,
      sealed tokens =
        (ofTokens tokens).ahead ++
          (ofTokens tokens).stop :: beyond := by
  cases hFound : tokens.find? (·.kind == .finish) with
  | none =>
      have hTokens : ∀ t ∈ tokens, t.kind ≠ .finish := by
        simpa using hFound
      have hLast :
          tokens.getLast?.any (·.kind == .finish) = false := by
        rw [Option.any_eq_false]
        intro t hT
        simpa using hTokens t (List.mem_of_getLast? hT)
      refine ⟨[], ?_⟩
      rw [sealed, hLast, ofTokens_of_unfinished hTokens]
      rfl
  | some stop =>
      rcases List.find?_eq_some_iff_append.mp hFound with
        ⟨hStop, front, beyond, rfl, hFront⟩
      rw [ofTokens_append_cons (by simpa using hFront)
        (by simpa using hStop)]
      unfold sealed
      split
      · exact ⟨beyond, rfl⟩
      · exact ⟨beyond ++ [_], List.append_assoc _ _ _⟩

/- How many of the tokens a reader has taken. -/
def index
    (tokens : List Token)
    (reader : Reader) : Nat :=
  (ofTokens tokens).ahead.length - reader.ahead.length

/- The tokens that it has taken. -/
def taken
    (tokens : List Token)
    (reader : Reader) : List Token :=
  (sealed tokens).take (reader.index tokens)

/-
  A reader of tokens is among those before the first end, or at
  this end.
-/
structure InRange
    (tokens : List Token)
    (reader : Reader) : Prop where
  before :
    reader.taken tokens ++ reader.ahead =
      tokens.takeWhile (·.kind != .finish)
  current :
    (sealed tokens)[reader.index tokens]? =
      some reader.current

/- Where calls lead, a reader is in range. -/
theorem Later.inRange
    {tokens : List Token}
    {reader : Reader}
    (h : Later (ofTokens tokens) reader) :
    InRange tokens reader := by
  rcases exists_sealed tokens with ⟨beyond, hSealed⟩
  rcases h.ahead with ⟨front, hFront⟩
  have hIndex : reader.index tokens = front.length := by
    rw [index, ← hFront, List.length_append]
    omega
  rw [← hFront, List.append_assoc] at hSealed
  constructor
  · rw [taken, hIndex, hSealed, List.take_left]
    exact hFront
  · rw [hIndex, hSealed,
      List.getElem?_append_right (Nat.le_refl _), Nat.sub_self,
      current, h.stop]
    cases reader.ahead <;> rfl

------------------------------------------------------------
-- Single Calls
------------------------------------------------------------

/-
  What a call does to a reader of some tokens.  It never goes
  back or beyond the first end.  Where it answers that a token
  of a kind or the end is not there, the reader stays; a path or
  an expression takes a token; and an error is about the token
  that is now ahead, or about the number that was taken last.
-/
structure Moves
    (tokens : List Token)
    (call : Call)
    (reader : Reader)
    (answer : Answer)
    (next : Reader) : Prop where
  inRange : InRange tokens reader
  inRange_next : InRange tokens next
  index_le : reader.index tokens ≤ next.index tokens
  not_consumed : answer = .consumed false → next = reader
  not_ended :
    ∀ expected e, call = .expectEnd expected →
      answer = .refused e → next = reader
  path :
    ∀ p, answer = .path p →
      reader.index tokens < next.index tokens
  expression :
    ∀ e, answer = .expression e →
      reader.index tokens < next.index tokens
  refused_ahead :
    ∀ e, answer = .refused e → e.expected ≠ .numberLiteral →
      e.found = next.current
  refused_number :
    ∀ e, answer = .refused e → e.expected = .numberLiteral →
      (next.taken tokens).getLast? = some e.found

/- An answer other than an error comes from a value. -/
theorem exists_of_ask
    {reading : Reading α}
    {give : α → Answer}
    {reader : Reader}
    {found : Answer}
    (h : (reader.ask reading give).1 = found)
    (hFound : ∀ e, found ≠ .refused e) :
    ∃ value,
      give value = found ∧
        reading reader.ahead =
          .ok (value, (reader.ask reading give).2.ahead) := by
  unfold ask at h ⊢
  cases hRun : reader.run reading with
  | mk result next =>
      rw [hRun] at h
      cases result with
      | ok value => exact ⟨value, h, ahead_of_run hRun⟩
      | error e => exact absurd h.symm (hFound e)

/-
  An error is about the token ahead, unless it is about a number
  that cannot be read, which is the last token taken.
-/
theorem found_of_ask
    {reading : Reading α}
    {give : α → Answer}
    {reader : Reader}
    {e : ParseError}
    (hReading : reading.Orderly)
    (hGive : ∀ value, give value ≠ .refused e)
    (h : (reader.ask reading give).1 = .refused e) :
    (e.expected ≠ .numberLiteral →
        e.found = (reader.ask reading give).2.current) ∧
      (e.expected = .numberLiteral →
        ∃ before,
          reader.ahead =
            before ++
              e.found ::
                (reader.ask reading give).2.ahead) := by
  unfold ask run at h ⊢
  cases hRead : reading reader.ahead with
  | ok result =>
      rw [hRead] at h
      exact absurd h (hGive result.1)
  | error refusal =>
      rw [hRead] at h
      cases h
      have hRefuses := hReading.refuses _ _ hRead
      constructor
      · intro hExpected
        exact
          congrArg (Option.getD · reader.stop)
            (hRefuses.found_eq_head? hExpected)
      · intro hExpected
        rcases hRefuses.exists_number hExpected with
          ⟨before, t, hAhead, hFound⟩
        refine ⟨before, ?_⟩
        simp only [hFound, Option.getD_some]
        exact hAhead

/- So are the errors of all calls. -/
theorem found_of_answer
    {reader : Reader}
    {call : Call}
    {e : ParseError}
    (h : (reader.answer call).1 = .refused e) :
    (e.expected ≠ .numberLiteral →
        e.found = (reader.answer call).2.current) ∧
      (e.expected = .numberLiteral →
        ∃ before,
          reader.ahead =
            before ++
              e.found :: (reader.answer call).2.ahead) := by
  cases call with
  | consumeIf kind => cases h
  | expectEnd expected =>
      exact
        found_of_ask (orderly_finish (by simp) (by simp))
          (by simp) h
  | path => exact found_of_ask orderly_path (by simp) h
  | expression =>
      exact found_of_ask Expr.orderly_reading (by simp) h
  | wholeExpression =>
      exact found_of_ask Expr.orderly_readingAll (by simp) h
  | program =>
      exact
        found_of_ask (Node.orderly_programReading _) (by simp) h

/- Where a token of a kind is not ahead, the reader stays. -/
theorem eq_of_not_consumed
    {reader : Reader}
    {call : Call}
    (h : (reader.answer call).1 = .consumed false) :
    (reader.answer call).2 = reader := by
  cases call with
  | consumeIf kind =>
      simp only [answer, consumeIf] at h ⊢
      split at h
      · rfl
      · split at h
        · cases h
        · rename_i hKind
          simp [hKind]
  | _ =>
      rcases exists_of_ask h (by simp) with ⟨value, hGive, _⟩
      cases hGive

/- Where the tokens do not end, the reader stays. -/
theorem eq_of_not_ended
    {reader : Reader}
    {expected : String}
    {e : ParseError}
    (h : (reader.answer (.expectEnd expected)).1 = .refused e) :
    (reader.answer (.expectEnd expected)).2 = reader := by
  rcases reader with ⟨ahead, stop⟩
  cases ahead with
  | nil => cases h
  | cons t tokens => rfl

/- Fewer tokens are ahead where one was taken. -/
theorem shorter_of_ask
    {reading : Reading α}
    {give : α → Answer}
    {reader : Reader}
    {found : Answer}
    (hReading : TakesToken reading)
    (h : (reader.ask reading give).1 = found)
    (hFound : ∀ e, found ≠ .refused e) :
    (reader.ask reading give).2.ahead.length <
      reader.ahead.length := by
  rcases exists_of_ask h hFound with ⟨value, _, hRead⟩
  exact hReading _ _ _ hRead

/- A path and an expression take a token. -/
theorem shorter_of_answer
    {reader : Reader}
    {call : Call}
    {found : Answer}
    (h : (reader.answer call).1 = found)
    (hFound :
      (∃ p, found = .path p) ∨ ∃ e, found = .expression e) :
    (reader.answer call).2.ahead.length <
      reader.ahead.length := by
  have hValue : ∀ e, found ≠ .refused e := by
    rintro e rfl
    simp at hFound
  cases call with
  | consumeIf kind =>
      rw [← h] at hFound
      simp [answer] at hFound
  | expectEnd expected =>
      rcases exists_of_ask h hValue with ⟨_, rfl, _⟩
      simp at hFound
  | path => exact shorter_of_ask takesToken_path h hValue
  | expression =>
      exact shorter_of_ask Expr.takesToken_reading h hValue
  | wholeExpression =>
      exact shorter_of_ask Expr.takesToken_readingAll h hValue
  | program =>
      rcases exists_of_ask h hValue with ⟨_, rfl, _⟩
      simp at hFound

------------------------------------------------------------
-- Calls In A Row
------------------------------------------------------------

section

variable {tokens : List Token}
variable {reader next : Reader}

/- A reader that is later has not taken less. -/
theorem Later.index_le
    (h : Later reader next) :
    reader.index tokens ≤ next.index tokens :=
  Nat.sub_le_sub_left h.ahead.length_le _

/- It has taken more where it has fewer tokens ahead. -/
theorem Later.index_lt
    (hReader : Later (ofTokens tokens) reader)
    (hNext : next.ahead.length < reader.ahead.length) :
    reader.index tokens < next.index tokens := by
  have hAhead := hReader.ahead.length_le
  unfold index
  omega

/- What stood right before the tokens ahead is taken last. -/
theorem Later.getLast?_taken
    {before : List Token}
    {t : Token}
    (hReader : Later (ofTokens tokens) reader)
    (h : Later reader next)
    (hAhead : reader.ahead = before ++ t :: next.ahead) :
    (next.taken tokens).getLast? = some t := by
  have hTaken :
      next.taken tokens ++ next.ahead =
        reader.taken tokens ++ before ++ [t] ++ next.ahead := by
    rw [(hReader.trans h).inRange.before,
      ← hReader.inRange.before, hAhead]
    simp
  rw [List.append_cancel_right hTaken, List.getLast?_concat]

end

/-
  Whatever tokens there are and whatever was called before, a
  call moves on from where the reader was left.
-/
theorem moves_of_calls
    (tokens : List Token)
    (calls : List Call)
    (call : Call) :
    Moves tokens call
      ((ofTokens tokens).afterCalls calls)
      (((ofTokens tokens).afterCalls calls).answer call).1
      (((ofTokens tokens).afterCalls calls).answer call).2 := by
  -- All that matters of the calls before is where they led.
  have hReader := later_afterCalls (ofTokens tokens) calls
  generalize (ofTokens tokens).afterCalls calls = reader
    at hReader
  have hNext := later_answer reader call
  exact
    { inRange := hReader.inRange
      inRange_next := (hReader.trans hNext).inRange
      index_le := hNext.index_le
      not_consumed := eq_of_not_consumed
      not_ended := by
        rintro expected e rfl h
        exact eq_of_not_ended h
      path := fun p h =>
        hReader.index_lt (shorter_of_answer h (.inl ⟨p, rfl⟩))
      expression := fun e h =>
        hReader.index_lt (shorter_of_answer h (.inr ⟨e, rfl⟩))
      refused_ahead := fun e h => (found_of_answer h).1
      refused_number := by
        intro e h hExpected
        rcases (found_of_answer h).2 hExpected with
          ⟨before, hAhead⟩
        exact hReader.getLast?_taken hNext hAhead }

end Reader

end Rulebook
