import Rulebook.Memo

/-
  A memo answers as if it kept nothing, as long as everything
  in it comes from compiling.

  Key definitions include:
    * `Memo.Faithful`

  Main results:
    * `Memo.Faithful.expression_result`
    * `Memo.Faithful.assignments_result`
-/

namespace Rulebook.Memo

------------------------------------------------------------
-- Faithful Memos
------------------------------------------------------------

/-
  All that is kept for a text is what compiling the text gives.
-/
structure Faithful (memo : Memo) : Prop where
  expressions :
    ∀ text e,
      memo.expressions.lookup text = some e →
        compile text = .ok e
  givens :
    ∀ text list,
      memo.givens.lookup text = some list →
        compileAssignments text = .ok list

/- The memo that keeps nothing is faithful. -/
theorem faithful_empty : empty.Faithful := by
  constructor
  · intro text e h
    cases h
  · intro text list h
    cases h

/-
  A compiled text put in front keeps an association of texts
  with what compiling them gives.
-/
private theorem lookup_cons_compiled
    {α : Type}
    {compiled : String → Except EvalError α}
    {kept : List (String × α)}
    {text : String}
    {value : α}
    (hKept :
      ∀ other v,
        kept.lookup other = some v → compiled other = .ok v)
    (hNew : compiled text = .ok value) :
    ∀ other v,
      ((text, value) :: kept).lookup other = some v →
        compiled other = .ok v := by
  intro other v h
  by_cases hSame : other = text
  · subst hSame
    have hValue : value = v := by
      simpa [List.lookup_cons_self] using h
    rw [hNew, hValue]
  · have hDiffers : (other == text) = false := by
      simpa using hSame
    have hOld : kept.lookup other = some v := by
      simpa [List.lookup_cons, hDiffers] using h
    exact hKept other v hOld

------------------------------------------------------------
-- Recalling
------------------------------------------------------------

namespace Faithful

variable {memo : Memo}

/- A faithful memo gives the expression that compiling gives. -/
theorem expression_result
    (h : memo.Faithful)
    (text : String) :
    (memo.expression text).result = compile text := by
  unfold Memo.expression
  cases hKept : memo.expressions.lookup text with
  | some e => exact (h.expressions text e hKept).symm
  | none =>
      cases hCompiled : compile text with
      | ok e => rfl
      | error error => rfl

/- Recalling an expression leaves a faithful memo. -/
theorem expression_memo
    (h : memo.Faithful)
    (text : String) :
    (memo.expression text).memo.Faithful := by
  unfold Memo.expression
  cases memo.expressions.lookup text with
  | some e => exact h
  | none =>
      cases hCompiled : compile text with
      | ok e =>
          exact
            ⟨lookup_cons_compiled h.expressions hCompiled,
              h.givens⟩
      | error error => exact h

/- A faithful memo gives the assignments compiling gives. -/
theorem assignments_result
    (h : memo.Faithful)
    (text : String) :
    (memo.assignments text).result =
      compileAssignments text := by
  unfold Memo.assignments
  cases hKept : memo.givens.lookup text with
  | some list => exact (h.givens text list hKept).symm
  | none =>
      cases hCompiled : compileAssignments text with
      | ok list => rfl
      | error error => rfl

/- Recalling assignments leaves a faithful memo. -/
theorem assignments_memo
    (h : memo.Faithful)
    (text : String) :
    (memo.assignments text).memo.Faithful := by
  unfold Memo.assignments
  cases memo.givens.lookup text with
  | some list => exact h
  | none =>
      cases hCompiled : compileAssignments text with
      | ok list =>
          exact
            ⟨h.expressions,
              lookup_cons_compiled h.givens hCompiled⟩
      | error error => exact h

end Faithful

end Rulebook.Memo
