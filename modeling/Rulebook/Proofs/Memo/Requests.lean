import Mathlib.Data.List.Induction
import Rulebook.Proofs.Memo

/-
  A memo that is asked again and again.  Every answer is what
  compiling the text gives; what is kept, and what was reported
  as compiled, are the texts that have succeeded so far, each
  of them once.

  Key definitions include:
    * `Memo.Request`
    * `Memo.ask`
    * `Memo.afterRequests`
    * `Memo.Keeps`
    * `Memo.Reminds`

  Main results:
    * `Memo.Keeps.ask`
    * `Memo.keeps_afterRequests`
    * `Memo.compilations_log`
    * `Memo.reminds_of_requests`
-/

namespace Rulebook.Memo

------------------------------------------------------------
-- Requests
------------------------------------------------------------

/- What a memo is asked for: an expression or a `given` line. -/
inductive Request where
  | expression (text : String)
  | assignments (text : String)

/- What it answers. -/
inductive Answer where
  | expression (result : Except EvalError Expr)
  | assignments (result : Except EvalError (List Assignment))

/- An answer that is an error. -/
inductive Answer.Fails : Answer → Prop where
  | expression (e : EvalError) : Fails (.expression (.error e))
  | assignments (e : EvalError) :
      Fails (.assignments (.error e))

/- The answer of a compiler that remembers nothing. -/
def Request.compiled : Request → Answer
  | .expression text => .expression (compile text)
  | .assignments text => .assignments (compileAssignments text)

/- An answer, what was reported for it, and the memo after it. -/
structure Reply where
  answer : Answer
  events : List Event
  memo : Memo

/- The reply to a request. -/
def ask (memo : Memo) : Request → Reply
  | .expression text =>
      let recalled := memo.expression text
      ⟨.expression recalled.result, recalled.events,
        recalled.memo⟩
  | .assignments text =>
      let recalled := memo.assignments text
      ⟨.assignments recalled.result, recalled.events,
        recalled.memo⟩

/- The memo behind several requests. -/
def afterRequests
    (memo : Memo)
    (requests : List Request) : Memo :=
  requests.foldl (fun memo request => (memo.ask request).memo)
    memo

/- All that is reported for several requests. -/
def log (memo : Memo) : List Request → List Event
  | [] => []
  | request :: requests =>
      (memo.ask request).events ++
        (memo.ask request).memo.log requests

theorem afterRequests_concat
    (memo : Memo)
    (requests : List Request)
    (request : Request) :
    memo.afterRequests (requests ++ [request]) =
      ((memo.afterRequests requests).ask request).memo := by
  simp [afterRequests]

theorem log_concat
    (memo : Memo)
    (requests : List Request)
    (request : Request) :
    memo.log (requests ++ [request]) =
      memo.log requests ++
        ((memo.afterRequests requests).ask request).events := by
  induction requests generalizing memo with
  | nil => simp [log, afterRequests]
  | cons first requests ih =>
      simp [log, afterRequests, ih, List.append_assoc]

------------------------------------------------------------
-- Texts That Have Succeeded
------------------------------------------------------------

/- The text, if the request is for an expression it has. -/
def Request.expressionText? : Request → Option String
  | .expression text =>
      if (compile text).isOk then some text else none
  | .assignments _ => none

/- The text, if the request is for assignments it has. -/
def Request.givenText? : Request → Option String
  | .expression _ => none
  | .assignments text =>
      if (compileAssignments text).isOk then some text else none

/- The texts whose expressions were found, each of them once. -/
def expressionTexts (requests : List Request) : List String :=
  (requests.filterMap (·.expressionText?)).eraseDups

/- The texts whose assignments were found, each of them once. -/
def givenTexts (requests : List Request) : List String :=
  (requests.filterMap (·.givenText?)).eraseDups

/- What a text adds to texts that are known. -/
def added
    (known : List String)
    (text? : Option String) : List String :=
  text?.toList.filter (· ∉ known)

/- A known text adds nothing. -/
theorem added_of_mem
    {known : List String}
    {text : String}
    (h : text ∈ known) : added known (some text) = [] := by
  simp [added, h]

/- A new one adds itself. -/
theorem added_of_not_mem
    {known : List String}
    {text : String}
    (h : text ∉ known) : added known (some text) = [text] := by
  simp [added, h]

/- One more text goes to the end, unless it is known. -/
theorem eraseDups_append_toList
    (texts : List String)
    (text? : Option String) :
    (texts ++ text?.toList).eraseDups =
      texts.eraseDups ++ added texts.eraseDups text? := by
  cases text? with
  | none => simp [added]
  | some text =>
      rw [List.eraseDups_append]
      by_cases hMem : text ∈ texts
      · rw [added_of_mem (List.mem_eraseDups.mpr hMem)]
        simp [List.removeAll, hMem]
      · rw [added_of_not_mem
          (fun h => hMem (List.mem_eraseDups.mp h))]
        simp [List.removeAll, List.eraseDups_cons, hMem]

/- One more request adds its text, if it has one. -/
theorem eraseDups_filterMap_concat
    (text? : Request → Option String)
    (requests : List Request)
    (request : Request) :
    ((requests ++ [request]).filterMap text?).eraseDups =
      (requests.filterMap text?).eraseDups ++
        added (requests.filterMap text?).eraseDups
          (text? request) := by
  rw [← eraseDups_append_toList, List.filterMap_append]
  cases hText : text? request <;> simp [hText]

theorem expressionTexts_concat
    (requests : List Request)
    (request : Request) :
    expressionTexts (requests ++ [request]) =
      expressionTexts requests ++
        added (expressionTexts requests)
          request.expressionText? :=
  eraseDups_filterMap_concat _ requests request

theorem givenTexts_concat
    (requests : List Request)
    (request : Request) :
    givenTexts (requests ++ [request]) =
      givenTexts requests ++
        added (givenTexts requests) request.givenText? :=
  eraseDups_filterMap_concat _ requests request

------------------------------------------------------------
-- Compilations
------------------------------------------------------------

/- The details of the events that report a compilation. -/
def compilations
    (events : List Event) : List (List (String × String)) :=
  (events.filter (·.message == "compiled expression")).map
    (·.fields)

/- A text with the text of its expression, if it has one. -/
def compilation? (text : String) :
    Option (List (String × String)) :=
  (compile text).toOption.map fun e =>
    [("expression", text), ("compiled", e.text)]

theorem compilations_append (xs ys : List Event) :
    compilations (xs ++ ys) =
      compilations xs ++ compilations ys := by
  simp [compilations]

/- Reading the tokens of a text reports no compilation. -/
theorem compilations_tokenEvents (text : String) :
    compilations (tokenEvents text) = [] := by
  unfold tokenEvents
  cases tokenize text with
  | error e => rfl
  | ok tokens => simp [compilations, Event.message]

/- Neither do the parts of a `given` line. -/
theorem compilations_assignmentEvents (text : String) :
    compilations (assignmentEvents text) = [] := by
  unfold assignmentEvents
  rw [compilations_append, compilations_tokenEvents]
  cases expressionReader text with
  | error e => rfl
  | ok reader => simp [compilations, Event.message]

------------------------------------------------------------
-- What Is Kept
------------------------------------------------------------

/-
  Kept texts behind a request for one of them: it joins them if
  it was not found among them and can be compiled.
-/
def keptAfter
    {α : Type}
    (kept : List (String × α))
    (text : String)
    (compiled : Except EvalError α) : List (String × α) :=
  match kept.lookup text, compiled with
  | none, .ok value => (text, value) :: kept
  | _, _ => kept

theorem expression_memo
    (memo : Memo)
    (text : String) :
    (memo.expression text).memo =
      { memo with
        expressions :=
          keptAfter memo.expressions text (compile text) } := by
  unfold Memo.expression keptAfter
  cases memo.expressions.lookup text with
  | some e => rfl
  | none => cases compile text <;> rfl

theorem assignments_memo
    (memo : Memo)
    (text : String) :
    (memo.assignments text).memo =
      { memo with
        givens :=
          keptAfter memo.givens text
            (compileAssignments text) } := by
  unfold Memo.assignments keptAfter
  cases memo.givens.lookup text with
  | some list => rfl
  | none => cases compileAssignments text <;> rfl

section

variable {α : Type}
variable {kept : List (String × α)}
variable {known : List String}
variable {text : String}
variable {compiled : Except EvalError α}

/- The texts that are kept are those that can be looked up. -/
theorem isSome_lookup_iff
    (hKept : kept.map (·.1) = known.reverse)
    (text : String) :
    (kept.lookup text).isSome = true ↔ text ∈ known := by
  rw [← List.mem_reverse, ← hKept, List.lookup_isSome_iff]
  simp

/- An error changes nothing. -/
theorem keptAfter_of_error
    {e : EvalError}
    (h : compiled = .error e) :
    keptAfter kept text compiled = kept := by
  unfold keptAfter
  rw [h]
  cases kept.lookup text <;> rfl

/- The kept texts are the known ones and what the text adds. -/
theorem keys_keptAfter
    (hKept : kept.map (·.1) = known.reverse)
    (hFound :
      ∀ value, kept.lookup text = some value →
        compiled = .ok value) :
    (keptAfter kept text compiled).map (·.1) =
      (known ++
        added known
          (if compiled.isOk then some text
            else none)).reverse := by
  have hIff := isSome_lookup_iff hKept text
  unfold keptAfter
  cases hLookup : kept.lookup text with
  | some value =>
      have hMem : text ∈ known := hIff.mp (by simp [hLookup])
      simp [hFound value hLookup, Except.isOk, Except.toBool,
        added_of_mem hMem, hKept]
  | none =>
      have hNew : text ∉ known := by
        rw [← hIff, hLookup]
        simp
      cases compiled with
      | ok value =>
          simp [Except.isOk, Except.toBool,
            added_of_not_mem hNew, hKept]
      | error e =>
          simp [Except.isOk, Except.toBool, added, hKept]

end

/-
  A memo behind some requests keeps the texts that have
  succeeded, the last one first.
-/
structure Keeps
    (requests : List Request)
    (memo : Memo) : Prop where
  faithful : memo.Faithful
  expressions :
    memo.expressions.map (·.1) =
      (expressionTexts requests).reverse
  givens :
    memo.givens.map (·.1) = (givenTexts requests).reverse

/- The memo that keeps nothing is behind no request. -/
theorem keeps_empty : Keeps [] empty :=
  ⟨faithful_empty, rfl, rfl⟩

section

variable {requests : List Request}
variable {memo : Memo}

/- One more request is kept as well. -/
theorem Keeps.ask
    (h : Keeps requests memo)
    (request : Request) :
    Keeps (requests ++ [request]) (memo.ask request).memo := by
  cases request with
  | expression text =>
      refine ⟨h.faithful.expression_memo text, ?_, ?_⟩
      · rw [expressionTexts_concat, Memo.ask, expression_memo]
        exact
          keys_keptAfter h.expressions
            (h.faithful.expressions text)
      · rw [givenTexts_concat, Memo.ask, expression_memo]
        simpa [added, Request.givenText?] using h.givens
  | assignments text =>
      refine ⟨h.faithful.assignments_memo text, ?_, ?_⟩
      · rw [expressionTexts_concat, Memo.ask, assignments_memo]
        simpa [added, Request.expressionText?]
          using h.expressions
      · rw [givenTexts_concat, Memo.ask, assignments_memo]
        exact
          keys_keptAfter h.givens (h.faithful.givens text)

end

/- So are all requests in a row. -/
theorem keeps_afterRequests (requests : List Request) :
    Keeps requests (empty.afterRequests requests) := by
  induction requests using List.reverseRecOn with
  | nil => exact keeps_empty
  | append_singleton requests request ih =>
      rw [afterRequests_concat]
      exact ih.ask request

section

variable {requests : List Request}
variable {memo : Memo}

/- Everything that is kept has its text in the count. -/
theorem Keeps.size_eq
    (h : Keeps requests memo) :
    memo.size =
      (expressionTexts requests).length +
        (givenTexts requests).length := by
  have hExpressions := congrArg List.length h.expressions
  have hGivens := congrArg List.length h.givens
  rw [List.length_map, List.length_reverse] at hExpressions
  rw [List.length_map, List.length_reverse] at hGivens
  rw [size, hExpressions, hGivens]

/- Every answer is the one of compiling. -/
theorem Keeps.answer_ask
    (h : Keeps requests memo)
    (request : Request) :
    (memo.ask request).answer = request.compiled := by
  cases request with
  | expression text =>
      exact
        congrArg Answer.expression
          (h.faithful.expression_result text)
  | assignments text =>
      exact
        congrArg Answer.assignments
          (h.faithful.assignments_result text)

/- An answer that is an error leaves the memo as it was. -/
theorem Keeps.memo_of_fails
    (h : Keeps requests memo)
    {request : Request}
    (hFails : (memo.ask request).answer.Fails) :
    (memo.ask request).memo = memo := by
  rw [h.answer_ask request] at hFails
  cases request with
  | expression text =>
      cases hResult : compile text with
      | ok value =>
          rw [Request.compiled, hResult] at hFails
          cases hFails
      | error e =>
          rw [Memo.ask, expression_memo,
            keptAfter_of_error hResult]
  | assignments text =>
      cases hResult : compileAssignments text with
      | ok value =>
          rw [Request.compiled, hResult] at hFails
          cases hFails
      | error e =>
          rw [Memo.ask, assignments_memo,
            keptAfter_of_error hResult]

/-
  A compilation is reported where an expression succeeds for
  the first time.
-/
theorem Keeps.compilations_ask
    (h : Keeps requests memo)
    (request : Request) :
    compilations (memo.ask request).events =
      (added (expressionTexts requests)
        request.expressionText?).filterMap compilation? := by
  cases request with
  | expression text =>
      have hIff := isSome_lookup_iff h.expressions text
      simp only [Memo.ask, Memo.expression,
        Request.expressionText?]
      cases hLookup : memo.expressions.lookup text with
      | some e =>
          have hMem := hIff.mp (by simp [hLookup])
          rw [h.faithful.expressions text e hLookup]
          simp [Except.isOk, Except.toBool, added_of_mem hMem,
            compilations]
      | none =>
          have hNew : text ∉ expressionTexts requests := by
            rw [← hIff, hLookup]
            simp
          cases hCompiled : compile text with
          | ok e =>
              simp only [compilations_append,
                compilations_tokenEvents, Except.isOk,
                Except.toBool, added_of_not_mem hNew,
                if_true, List.nil_append]
              simp [compilations, compilation?, hCompiled,
                Except.toOption, Event.message, Event.fields]
          | error e =>
              simp [Except.isOk, Except.toBool, added,
                compilations_tokenEvents]
  | assignments text =>
      simp only [Memo.ask, Memo.assignments,
        Request.expressionText?]
      cases memo.givens.lookup text with
      | some list => rfl
      | none =>
          cases compileAssignments text <;>
            exact compilations_assignmentEvents text

end

/-
  What was reported as compiled are the texts that have
  succeeded, in the order of their first successes.
-/
theorem compilations_log (requests : List Request) :
    compilations (empty.log requests) =
      (expressionTexts requests).filterMap compilation? := by
  induction requests using List.reverseRecOn with
  | nil => rfl
  | append_singleton requests request ih =>
      rw [log_concat, compilations_append, ih,
        (keeps_afterRequests requests).compilations_ask,
        expressionTexts_concat, List.filterMap_append]

------------------------------------------------------------
-- Replies
------------------------------------------------------------

/-
  What a reply says, and what it leaves of the memo that was
  asked, behind some requests.
-/
structure Reminds
    (before : List Request)
    (request : Request)
    (memo : Memo)
    (reply : Reply) : Prop where
  answer : reply.answer = request.compiled
  size :
    memo.size =
      (expressionTexts before).length +
        (givenTexts before).length
  failed : reply.answer.Fails → reply.memo = memo
  compilations :
    compilations reply.events =
      (added (expressionTexts before)
        request.expressionText?).filterMap compilation?

/-
  Whatever a memo was asked before, it answers what compiling
  gives, and it counts and reports each text that succeeds
  once.
-/
theorem reminds_of_requests (before : List Request) :
    (∀ request,
      Reminds before request (empty.afterRequests before)
        ((empty.afterRequests before).ask request)) ∧
      compilations (empty.log before) =
        (expressionTexts before).filterMap compilation? := by
  have hKeeps := keeps_afterRequests before
  constructor
  · intro request
    exact
      { answer := hKeeps.answer_ask request
        size := hKeeps.size_eq
        failed := hKeeps.memo_of_fails
        compilations := hKeeps.compilations_ask request }
  · exact compilations_log before

end Rulebook.Memo
