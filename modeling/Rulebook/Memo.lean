import Rulebook.Compile

/-
  A memo of compiled texts, so that a text is compiled once
  however often it is used.  Only successes are kept.

  Key definitions include:
    * `Memo`
    * `Recalled`
    * `Memo.expression`
    * `Memo.assignments`
    * `Memo.size`
-/

namespace Rulebook

/-
  Compiled texts.  A text can be kept in both lists, as an
  expression and as a `given` line.
-/
structure Memo where
  expressions : List (String × Expr)
  givens : List (String × List Assignment)

/- A result, what was reported for it, and the memo after it. -/
structure Recalled (α : Type) where
  result : Except EvalError α
  events : List Event
  memo : Memo

namespace Memo

/- The memo that keeps nothing. -/
def empty : Memo :=
  ⟨[], []⟩

/- The expression of a text. -/
def expression
    (memo : Memo)
    (text : String) : Recalled Expr :=
  match memo.expressions.lookup text with
  | some e => ⟨.ok e, [], memo⟩
  | none =>
      match compile text with
      | .ok e =>
          { result := .ok e
            events := tokenEvents text ++ [.compiled text e]
            memo :=
              { memo with
                expressions := (text, e) :: memo.expressions } }
      | .error error =>
          ⟨.error error, tokenEvents text, memo⟩

/- The assignments of a `given` line. -/
def assignments
    (memo : Memo)
    (text : String) : Recalled (List Assignment) :=
  match memo.givens.lookup text with
  | some list => ⟨.ok list, [], memo⟩
  | none =>
      match compileAssignments text with
      | .ok list =>
          { result := .ok list
            events := assignmentEvents text
            memo :=
              { memo with
                givens := (text, list) :: memo.givens } }
      | .error error =>
          ⟨.error error, assignmentEvents text, memo⟩

/- The number of texts that are kept. -/
def size (memo : Memo) : Nat :=
  memo.expressions.length + memo.givens.length

end Memo

end Rulebook
