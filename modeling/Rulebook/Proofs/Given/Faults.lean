import Rulebook.Proofs.Expr.Assignments
import Rulebook.Proofs.Expr.Refusals

/-
  The faults of the parts of a `given` line, told without the
  readers of paths and signs: the first sign with an equals sign
  is another one, or something other than a path comes before
  it, or no expression comes behind it.

  Key definitions include:
    * `Grammar.equalsSigns`
    * `Grammar.Misnames`
    * `Grammar.Offends`

  Main results:
    * `Reading.path_eq_error_iff`
    * `compileFragment_eq_error_iff`
    * `Grammar.assigns_or_offends`
-/

namespace Rulebook

------------------------------------------------------------
-- Faults
------------------------------------------------------------

namespace Grammar

/- The kinds of tokens that are spelled with an equals sign. -/
def equalsSigns : List TokenKind :=
  [.symbol .assign, .symbol .equal, .symbol .notEqual,
    .symbol .greaterEqual, .symbol .lessEqual]

/-
  Tokens that are no path: what is expected, and the token found
  instead, if any is left.
-/
inductive Misnames :
    List Token → Expectation → Option Token → Prop where
  | start
      {tokens : List Token}
      (hFirst : ∀ t ∈ tokens.head?, t.kind ≠ .identifier) :
      Misnames tokens .fieldName tokens.head?
  | dot
      {first dot : Token}
      {more rest : List Token}
      {names : List String}
      (hFirst : first.kind = .identifier)
      (hMore : Names more names)
      (hDot : dot.kind = .symbol .dot)
      (hRest : ∀ t ∈ rest.head?, t.kind ≠ .identifier) :
      Misnames (first :: more ++ dot :: rest)
        .fieldNameAfterDot rest.head?
  | behind
      {first t : Token}
      {more rest : List Token}
      {names : List String}
      (hFirst : first.kind = .identifier)
      (hMore : Names more names)
      (hNext : t.kind ≠ .symbol .dot) :
      Misnames (first :: more ++ t :: rest) .assignSign
        (some t)

/-
  A part of a line that makes no assignment, and its error.  An
  end that is found instead of a token stands behind the tokens
  that were read.
-/
inductive Offends : List Token → ParseError → Prop where
  | sign
      {before behind : List Token}
      {sign : Token}
      (hBefore : ∀ t ∈ before, holdsEquals t = false)
      (hHolds : holdsEquals sign = true)
      (hSign : sign.kind ≠ .symbol .assign) :
      Offends (before ++ sign :: behind) ⟨.assignSign, sign⟩
  | target
      {before source : List Token}
      {sign : Token}
      {expected : Expectation}
      {found : Option Token}
      (hBefore : ∀ t ∈ before, holdsEquals t = false)
      (hSign : sign.kind = .symbol .assign)
      (hTarget : Misnames before expected found) :
      Offends (before ++ sign :: source)
        ⟨expected, found.getD (Reader.endOf before)⟩
  | source
      {first sign : Token}
      {more source : List Token}
      {names : List String}
      {error : ParseError}
      (hFirst : first.kind = .identifier)
      (hMore : Names more names)
      (hSign : sign.kind = .symbol .assign)
      (hSource :
        (Reader.run Expr.readingAll
          ⟨source, Reader.endOf (sign :: source)⟩).1 =
            .error error) :
      Offends (first :: more ++ sign :: source) error

end Grammar

open Grammar

/- They are the tokens that hold an equals sign. -/
theorem holdsEquals_iff
    {t : Token} :
    holdsEquals t = true ↔ t.kind ∈ equalsSigns := by
  unfold holdsEquals equalsSigns
  cases t.kind with
  | symbol s => cases s <;> decide
  | _ => simp

/- Lexemes of a text leave no name empty. -/
theorem lexeme_ne_empty
    {t : Token}
    (h : Lexeme t.kind t.lexeme.toList)
    (hName : t.kind = .identifier) : t.lexeme ≠ "" := by
  intro hEmpty
  rw [hEmpty, hName] at h
  exact h.ne_nil (by simp) rfl

------------------------------------------------------------
-- Paths
------------------------------------------------------------

variable {tokens : List Token}

namespace Reading

/- Names that are not empty are the segments of a path. -/
theorem exists_path
    {first : Token}
    {more : List Token}
    {names : List String}
    (hNames :
      ∀ t ∈ first :: more,
        t.kind = .identifier → t.lexeme ≠ "")
    (hFirst : first.kind = .identifier)
    (hMore : Names more names) :
    ∃ p : FieldPath, p.segments = first.lexeme :: names := by
  cases hPath :
      FieldPath.ofSegments? (first.lexeme :: names) with
  | some p =>
      exact ⟨p, FieldPath.ofSegments?_eq_some_iff.mp hPath⟩
  | none =>
      rcases List.forall_mem_cons.mp hNames with
        ⟨hHere, hThere⟩
      rcases exists_empty_of_ofSegments? hPath with
        hEmpty | hEmpty
      · exact absurd hEmpty (hHere hFirst)
      · rcases exists_empty_of_names hMore hEmpty with
          ⟨t, hT, hKind, hLexeme⟩
        exact absurd hLexeme (hThere t hT hKind)

/-
  A path is refused where a name is missing, at the start or
  behind a dot.
-/
theorem path_eq_error_iff
    {refusal : Refusal}
    (hNames :
      ∀ t ∈ tokens, t.kind = .identifier → t.lexeme ≠ "") :
    path tokens = .error refusal ↔
      (refusal = .ahead .fieldName tokens ∧
        ∀ t ∈ tokens.head?, t.kind ≠ .identifier) ∨
      ∃ first more names dot rest,
        tokens = first :: more ++ dot :: rest ∧
          first.kind = .identifier ∧
          Names more names ∧
          dot.kind = .symbol .dot ∧
          (∀ t ∈ rest.head?, t.kind ≠ .identifier) ∧
          refusal = .ahead .fieldNameAfterDot rest := by
  constructor
  · intro h
    rcases bind_eq_error_iff.mp h with
      hFirst | ⟨first, behind, hFirst, hBehind⟩
    · exact .inl (expect_eq_error_iff.mp hFirst)
    · rcases expect_eq_ok_iff.mp hFirst with ⟨rfl, hKind⟩
      rcases bind_eq_error_iff.mp hBehind with
        hMore | ⟨names, rest, hMore, hPath⟩
      · rcases moreNames_eq_error_iff.mp hMore with
          ⟨more, names, dot, rest, rfl, hLast⟩
        exact
          .inr ⟨first, more, names, dot, rest, rfl, hKind,
            hLast⟩
      · rcases moreNames_eq_ok_iff.mp hMore with
          ⟨more, rfl, hMore, _⟩
        rw [← List.cons_append, List.forall_mem_append]
          at hNames
        rcases exists_path hNames.1 hKind hMore with
          ⟨p, hSegments⟩
        rw [FieldPath.ofSegments?_eq_some_iff.mpr hSegments]
          at hPath
        cases hPath
  · rintro (⟨rfl, hFirst⟩ |
      ⟨first, more, names, dot, rest, rfl, hFirst, hLast⟩)
    · exact
        bind_eq_error_iff.mpr
          (.inl (expect_eq_error_iff.mpr ⟨rfl, hFirst⟩))
    · apply bind_eq_error_iff.mpr
      refine
        .inr ⟨first, more ++ dot :: rest,
          expect_eq_ok_iff.mpr ⟨rfl, hFirst⟩, ?_⟩
      apply bind_eq_error_iff.mpr
      exact
        .inl
          (moreNames_eq_error_iff.mpr
            ⟨more, names, dot, rest, rfl, hLast⟩)

end Reading

section

open Reading

/- A target is refused where it is no path. -/
theorem targetReading_eq_error_iff
    {expected : Expectation}
    {found : Option Token}
    (hNames :
      ∀ t ∈ tokens, t.kind = .identifier → t.lexeme ≠ "") :
    (∃ rest,
      targetReading tokens =
        .error ⟨expected, found, rest⟩) ↔
      Misnames tokens expected found := by
  constructor
  · rintro ⟨rest, h⟩
    rcases bind_eq_error_iff.mp h with
      hPath | ⟨p, behind, hPath, h⟩
    · rcases (path_eq_error_iff hNames).mp hPath with
        ⟨hRefusal, hFirst⟩ |
        ⟨first, more, names, dot, rest, rfl, hFirst, hMore,
          hDot, hRest, hRefusal⟩
      · cases hRefusal
        exact .start hFirst
      · cases hRefusal
        exact .dot hFirst hMore hDot hRest
    · rcases bind_eq_error_iff.mp h with
        hEnd | ⟨_, _, _, hPure⟩
      · rcases finish_eq_error_iff.mp hEnd with
          ⟨hRefusal, hBehind⟩
        cases hRefusal
        rcases path_eq_ok_iff.mp hPath with
          ⟨first, more, names, rfl, hFirst, hMore, _, hNext⟩
        cases rest with
        | nil => exact absurd rfl hBehind
        | cons t rest => exact .behind hFirst hMore (hNext t rfl)
      · cases hPure
  · intro h
    cases h with
    | start hFirst =>
        refine ⟨tokens, bind_eq_error_iff.mpr (.inl ?_)⟩
        exact
          (path_eq_error_iff hNames).mpr (.inl ⟨rfl, hFirst⟩)
    | @dot first dot more rest names hFirst hMore hDot hRest =>
        refine ⟨rest, bind_eq_error_iff.mpr (.inl ?_)⟩
        exact
          (path_eq_error_iff hNames).mpr
            (.inr
              ⟨first, more, names, dot, rest, rfl, hFirst, hMore,
                hDot, hRest, rfl⟩)
    | @behind first t more rest names hFirst hMore hNext =>
        rw [List.forall_mem_append] at hNames
        rcases exists_path hNames.1 hFirst hMore with
          ⟨p, hSegments⟩
        refine
          ⟨t :: rest, bind_eq_error_iff.mpr
            (.inr ⟨p, t :: rest, ?_, ?_⟩)⟩
        · exact
            path_eq_ok_iff.mpr
              ⟨first, more, names, rfl, hFirst, hMore,
                hSegments, by simpa using hNext⟩
        · exact bind_eq_error_iff.mpr (.inl rfl)

/- So the reader of a target tells what is wrong with it. -/
theorem run_targetReading_eq_error_iff
    {error : ParseError}
    (hTokens : ∀ t ∈ tokens, Lexeme t.kind t.lexeme.toList) :
    ((Reader.ofTokens tokens).run targetReading).1 =
        .error error ↔
      ∃ expected found,
        Misnames tokens expected found ∧
          error =
            ⟨expected, found.getD (Reader.endOf tokens)⟩ := by
  rw [Reader.ofTokens_of_unfinished fun t hT =>
      (hTokens t hT).ne_finish,
    Reader.run_error_iff]
  have hNames :
      ∀ t ∈ tokens, t.kind = .identifier → t.lexeme ≠ "" :=
    fun t hT => lexeme_ne_empty (hTokens t hT)
  constructor
  · rintro ⟨⟨expected, found, rest⟩, hRead, hError⟩
    exact
      ⟨expected, found,
        (targetReading_eq_error_iff hNames).mp ⟨rest, hRead⟩,
        hError⟩
  · rintro ⟨expected, found, hTarget, hError⟩
    rcases (targetReading_eq_error_iff hNames).mpr hTarget with
      ⟨rest, hRead⟩
    exact ⟨⟨expected, found, rest⟩, hRead, hError⟩

end

/- The reader of a source begins behind the sign. -/
theorem run_sourceReading
    {sign : Token}
    {source : List Token}
    (hTokens :
      ∀ t ∈ sign :: source, Lexeme t.kind t.lexeme.toList)
    (hSign : sign.kind = .symbol .assign) :
    ((Reader.ofTokens (sign :: source)).run
        sourceReading).1 =
      (Reader.run Expr.readingAll
        ⟨source, Reader.endOf (sign :: source)⟩).1 := by
  rw [Reader.ofTokens_of_unfinished fun t hT =>
    (hTokens t hT).ne_finish]
  have hRead :
      sourceReading (sign :: source) =
        Expr.readingAll source := by
    simp [sourceReading, Reading.skip, hSign, bind,
      StateT.bind, Except.bind]
  unfold Reader.run
  rw [hRead]

------------------------------------------------------------
-- Parts
------------------------------------------------------------

/- A part has an error if it makes no assignment. -/
theorem compileFragment_eq_error_iff
    {fragment : List Token}
    {error : ParseError}
    (hTokens :
      ∀ t ∈ fragment, Lexeme t.kind t.lexeme.toList) :
    compileFragment fragment = .error error ↔
      Offends fragment error := by
  constructor
  · intro h
    rcases holdsEquals_cases fragment with
      hNone | ⟨before, sign, source, rfl, hBefore, hHolds⟩
    · rw [compileFragment_of_none hNone] at h
      cases h
    · by_cases hSign : sign.kind = .symbol .assign
      · have hParts := List.forall_mem_append.mp hTokens
        rw [compileFragment_append hBefore hSign,
          run_sourceReading hParts.2 hSign] at h
        rcases bindResult_eq_error_iff.mp h with
          hPath | ⟨path, hPath, h⟩
        · rcases
            (run_targetReading_eq_error_iff hParts.1).mp hPath
            with ⟨expected, found, hTarget, rfl⟩
          exact .target hBefore hSign hTarget
        · rcases bindResult_eq_error_iff.mp h with
            hValue | ⟨value, _, h⟩
          · have hUnfinished :
                ∀ t ∈ before, t.kind ≠ .finish :=
              fun t hT => (hParts.1 t hT).ne_finish
            rcases
              (run_targetReading_eq_ok_iff hUnfinished).mp hPath
              with ⟨first, more, names, rfl, hFirst, hMore, _⟩
            exact .source hFirst hMore hSign hValue
          · cases h
      · rw [compileFragment_of_other_sign hBefore hHolds hSign]
          at h
        cases h
        exact .sign hBefore hHolds hSign
  · intro h
    cases h with
    | sign hBefore hHolds hSign =>
        exact compileFragment_of_other_sign hBefore hHolds hSign
    | target hBefore hSign hTarget =>
        have hParts := List.forall_mem_append.mp hTokens
        have hPath :=
          (run_targetReading_eq_error_iff hParts.1).mpr
            ⟨_, _, hTarget, rfl⟩
        rw [compileFragment_append hBefore hSign]
        exact bindResult_eq_error_iff.mpr (.inl hPath)
    | @source first sign more source names error hFirst hMore
        hSign hSource =>
        have hParts := List.forall_mem_append.mp hTokens
        have hNames :
            ∀ t ∈ first :: more,
              t.kind = .identifier → t.lexeme ≠ "" :=
          fun t hT => lexeme_ne_empty (hParts.1 t hT)
        rcases Reading.exists_path hNames hFirst hMore with
          ⟨path, hSegments⟩
        have hUnfinished :
            ∀ t ∈ first :: more, t.kind ≠ .finish :=
          fun t hT => (hParts.1 t hT).ne_finish
        have hPath :=
          (run_targetReading_eq_ok_iff hUnfinished).mpr
            ⟨first, more, names, rfl, hFirst, hMore, hSegments⟩
        rw [compileFragment_append
            (holdsEquals_of_path hFirst hMore) hSign,
          run_sourceReading hParts.2 hSign]
        apply bindResult_eq_error_iff.mpr
        refine .inr ⟨path, hPath, ?_⟩
        exact bindResult_eq_error_iff.mpr (.inl hSource)

/- A part says what it assigns, if anything, or has an error. -/
theorem Grammar.assigns_or_offends
    {part : List Token}
    (hTokens : ∀ t ∈ part, Lexeme t.kind t.lexeme.toList) :
    (∃ result, Assigns part result) ∧
        (∀ error, ¬ Offends part error) ∨
      (∀ result, ¬ Assigns part result) ∧
        ∃ error, Offends part error := by
  have hUnfinished : ∀ t ∈ part, t.kind ≠ .finish :=
    fun t hT => (hTokens t hT).ne_finish
  simp only [← compileFragment_eq_ok_iff hUnfinished,
    ← compileFragment_eq_error_iff hTokens]
  cases compileFragment part with
  | ok result => exact .inl ⟨⟨result, rfl⟩, by simp⟩
  | error error => exact .inr ⟨by simp, ⟨error, rfl⟩⟩

end Rulebook
