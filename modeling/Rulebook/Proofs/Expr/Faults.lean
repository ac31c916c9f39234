import Rulebook.Proofs.Expr.Assignments
import Rulebook.Proofs.Expr.Refusals

/-
  The errors in a text that is made of spellings.  They are
  never about the reading of a single token, and their places
  lie in the text or right behind it.

  Key definitions include:
    * `Position.Within`
    * `Token.FitsIn`
    * `Reading.FindsGiven`
    * `EvalError.Misreads`

  Main results:
    * `fitsIn_inRow`
    * `Reader.found_of_run`
    * `misreads_of_compile`
    * `misreads_of_compileAssignments`
-/

namespace Rulebook

------------------------------------------------------------
-- Places In A Text
------------------------------------------------------------

/- A place on the first line, among so many characters. -/
structure Position.Within
    (length : Nat)
    (p : Position) : Prop where
  line : p.line = 1
  first : 1 ≤ p.column
  last : p.column ≤ length + 1

/- A token on the first line that ends where the text ends. -/
structure Token.FitsIn
    (length : Nat)
    (t : Token) : Prop where
  line : t.position.line = 1
  first : 1 ≤ t.position.column
  width : 1 ≤ t.spelling.length
  last : t.position.column + t.spelling.length ≤ length + 1

theorem Token.FitsIn.within
    {length : Nat}
    {t : Token}
    (h : t.FitsIn length) : t.position.Within length := by
  have hWidth := h.width
  have hLast := h.last
  exact ⟨h.line, h.first, by omega⟩

/- The end behind tokens that fit in is in the text. -/
theorem Reader.within_endOf
    {length : Nat}
    {tokens : List Token}
    (h : ∀ t ∈ tokens, t.FitsIn length) :
    (endOf tokens).position.Within length := by
  unfold endOf
  cases hLast : tokens.getLast? with
  | none => exact ⟨rfl, Nat.le_refl 1, Nat.le_add_left 1 _⟩
  | some t =>
      -- The end is put one column on even behind nothing, but
      -- no spelling is empty.
      have hFits := h t (List.mem_of_getLast? hLast)
      have hWidth := hFits.width
      refine ⟨hFits.line, ?_, ?_⟩
      · exact Nat.le_add_right_of_le hFits.first
      · simpa only [Nat.max_eq_left hWidth] using hFits.last

/- No spelling is empty. -/
theorem Respellable.spelling_pos
    {t : Token}
    (h : Respellable t) : 1 ≤ t.spelling.length := by
  rw [← String.length_toList, toList_spelling]
  apply List.length_pos_iff.mpr
  unfold written
  split
  · simp
  · exact h.1.ne_nil ‹_›

/- Tokens in a row fit into the text of their spellings. -/
theorem fitsIn_inRow
    {tokens : List Token}
    {column length : Nat}
    (h : ∀ t ∈ tokens, Respellable t)
    (hColumn : 1 ≤ column)
    (hLength :
      column + (spellingOfTokens tokens).length ≤
        length + 1) :
    ∀ t ∈ inRow column tokens, t.FitsIn length := by
  induction tokens generalizing column with
  | nil => simp [inRow]
  | cons t tokens ih =>
      rcases List.forall_mem_cons.mp h with ⟨hFirst, hMore⟩
      have hWidth := hFirst.spelling_pos
      rw [inRow, List.forall_mem_cons]
      cases tokens with
      | nil =>
          rw [length_spellingOfTokens_singleton] at hLength
          exact
            ⟨⟨rfl, hColumn, hWidth, hLength⟩, by simp [inRow]⟩
      | cons u tokens =>
          rw [length_spellingOfTokens_cons_cons] at hLength
          have hHere :
              column + t.spelling.length ≤ length + 1 := by
            omega
          exact
            ⟨⟨rfl, hColumn, hWidth, hHere⟩,
              ih hMore (by omega) (by omega)⟩

theorem fitsIn_text
    {tokens : List Token}
    (h : ∀ t ∈ tokens, Respellable t) :
    ∀ t ∈ inRow 1 tokens,
      t.FitsIn (spellingOfTokens tokens).length :=
  fitsIn_inRow h (Nat.le_refl 1)
    (Nat.le_of_eq (Nat.add_comm 1 _))

------------------------------------------------------------
-- Refused Tokens
------------------------------------------------------------

namespace Reading

variable {α β : Type}

/- Every token that is refused is one of those given. -/
def FindsGiven (reading : Reading α) : Prop :=
  ∀ tokens refusal,
    reading tokens = .error refusal →
      ∀ t ∈ refusal.found, t ∈ tokens

/- A reading that is orderly refuses one of its tokens. -/
theorem Orderly.findsGiven
    {reading : Reading α}
    (h : reading.Orderly) : FindsGiven reading := by
  intro tokens refusal hRefusal t hT
  cases h.refuses tokens refusal hRefusal with
  | number hKind hUnread =>
      cases hT
      simp
  | path hEmpty =>
      exact
        List.mem_append_right _
          (List.mem_of_mem_head? hT)
  | ahead hNumber hPath =>
      exact
        List.mem_append_right _
          (List.mem_of_mem_head? hT)

end Reading

/- A reader finds a token ahead of it, or the end. -/
theorem Reader.found_of_run
    {α : Type}
    {reading : Reading α}
    {reader : Reader}
    {error : ParseError}
    (hReading : reading.FindsGiven)
    (h : (reader.run reading).1 = .error error) :
    error.found ∈ reader.ahead ∨
      error.found = reader.stop := by
  unfold run at h
  cases hRead : reading reader.ahead with
  | ok result =>
      rw [hRead] at h
      cases h
  | error refusal =>
      rw [hRead] at h
      cases h
      cases hFound : refusal.found with
      | none => exact .inr rfl
      | some t =>
          exact .inl (hReading _ refusal hRead t hFound)

/- What a reader of tokens finds is in the text of them. -/
theorem Reader.within_of_run
    {α : Type}
    {reading : Reading α}
    {tokens : List Token}
    {length : Nat}
    {error : ParseError}
    (hFits : ∀ t ∈ tokens, t.FitsIn length)
    (hReading : reading.FindsGiven)
    (h : ((ofTokens tokens).run reading).1 = .error error) :
    error.found.position.Within length := by
  rcases found_of_run hReading h with hAhead | hStop
  · have hFound : error.found ∈ tokens :=
      (List.takeWhile_prefix _).subset hAhead
    exact (hFits _ hFound).within
  · rw [hStop]
    simp only [ofTokens]
    cases hFinish : tokens.find? (·.kind == .finish) with
    | none => exact within_endOf hFits
    | some t =>
        exact (hFits t (List.mem_of_find?_eq_some hFinish)).within

------------------------------------------------------------
-- Expressions
------------------------------------------------------------

/-
  An error in a text: something was expected at one of its
  tokens or at its end.
-/
structure EvalError.Misreads
    (text : String)
    (e : EvalError) : Prop where
  fault :
    ∃ expected found, e.fault = .unexpected expected found
  expression : e.expression = text
  origin : e.origin = none
  place : e.position.Within text.length

theorem EvalError.misreads_ofParseError
    {text : String}
    {error : ParseError}
    (h : error.found.position.Within text.length) :
    (ofParseError text error).Misreads text :=
  ⟨⟨_, _, rfl⟩, rfl, rfl, h⟩

variable {tokens : List Token}
variable {e : EvalError}

/- The end of a text is right behind it. -/
theorem within_endAt (length : Nat) :
    (endAt (1 + length)).position.Within length :=
  ⟨rfl, Nat.le_add_right 1 length,
    Nat.le_of_eq (Nat.add_comm 1 length)⟩

theorem findsGiven_readingAll :
    Expr.readingAll.FindsGiven :=
  Expr.orderly_readingAll.findsGiven

/- The errors of an expression that is made of spellings. -/
theorem misreads_of_compile
    (hTokens : ∀ t ∈ tokens, Respellable t)
    (h : compile (spellingOfTokens tokens) = .error e) :
    e.Misreads (spellingOfTokens tokens) := by
  rw [compile, expressionReader_spellingOfTokens hTokens] at h
  rcases mapError_eq_error_iff.mp h with ⟨error, hRun, rfl⟩
  apply EvalError.misreads_ofParseError
  rcases Reader.found_of_run findsGiven_readingAll hRun with
    hAhead | hStop
  · exact (fitsIn_text hTokens _ hAhead).within
  · rw [hStop]
    exact within_endAt _

------------------------------------------------------------
-- Given Lines
------------------------------------------------------------

section

open Reading

theorem orderly_targetReading : targetReading.Orderly := by
  refine orderly_path.bind fun _ => ?_
  refine (orderly_finish (by simp) (by simp)).bind fun _ => ?_
  exact orderly_pure _

theorem orderly_sourceReading : sourceReading.Orderly :=
  (orderly_skip _).bind fun _ => Expr.orderly_readingAll

end

/- What is found in a part of a line is in the text. -/
theorem within_of_compileFragment
    {fragment : List Token}
    {length : Nat}
    {error : ParseError}
    (hFits : ∀ t ∈ fragment, t.FitsIn length)
    (h : compileFragment fragment = .error error) :
    error.found.position.Within length := by
  rcases holdsEquals_cases fragment with
    hNone | ⟨before, sign, source, rfl, hBefore, hHolds⟩
  · rw [compileFragment_of_none hNone] at h
    cases h
  · rw [List.forall_mem_append] at hFits
    by_cases hSign : sign.kind = .symbol .assign
    · rw [compileFragment_append hBefore hSign] at h
      rcases bindResult_eq_error_iff.mp h with
        hPath | ⟨path, _, h⟩
      · exact
          Reader.within_of_run hFits.1
            orderly_targetReading.findsGiven hPath
      · rcases bindResult_eq_error_iff.mp h with
          hValue | ⟨value, _, h⟩
        · exact
            Reader.within_of_run hFits.2
              orderly_sourceReading.findsGiven hValue
        · cases h
    · rw [compileFragment_of_other_sign hBefore hHolds hSign]
        at h
      cases h
      exact (hFits.2 sign List.mem_cons_self).within

/- The errors of a given line that is made of spellings. -/
theorem misreads_of_compileAssignments
    (hTokens : ∀ t ∈ tokens, Respellable t)
    (h :
      compileAssignments (spellingOfTokens tokens) =
        .error e) :
    e.Misreads (spellingOfTokens tokens) := by
  rw [compileAssignments,
    expressionReader_spellingOfTokens hTokens] at h
  rcases mapError_eq_error_iff.mp h with ⟨error, hRun, rfl⟩
  apply EvalError.misreads_ofParseError
  rcases compileFragments_eq_error_iff.mp hRun with
    ⟨front, fragment, back, hParts, _, hError⟩
  have hFragment :
      fragment ∈ splitCommas 0 (inRow 1 tokens) := by
    have hMember : fragment ∈ front ++ fragment :: back := by
      simp
    rwa [← hParts] at hMember
  apply within_of_compileFragment _ hError
  intro t hT
  exact
    fitsIn_text hTokens t
      (mem_of_mem_splitCommas hFragment t hT)

end Rulebook
