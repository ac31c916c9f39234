import Rulebook.Proofs.Lists
import Rulebook.Reading

/-
  When the small readings succeed, and what they take.

  Key definitions include:
    * `Grammar.Names`

  Key lemmas include:
    * `Reading.bind_eq_ok_iff`
    * `Reading.expect_eq_ok_iff`
    * `Reading.line_eq_ok_iff`
    * `Reading.moreNames_eq_ok_iff`
    * `Reading.moreNames_eq_error_iff`
    * `Reading.path_eq_ok_iff`
    * `Reader.ofTokens_concat`
    * `Reader.ahead_ofTokens`
    * `Reader.run_ok_iff`
    * `Reader.run_error_iff`
-/

namespace Rulebook

/- Further names of a path, each behind a dot. -/
inductive Grammar.Names : List Token → List String → Prop where
  | none : Names [] []
  | more
      {dot name : Token}
      {tokens : List Token}
      {names : List String}
      (hDot : dot.kind = .symbol .dot)
      (hName : name.kind = .identifier)
      (hMore : Names tokens names) :
      Names (dot :: name :: tokens) (name.lexeme :: names)

/- A path has the segments that it is made of. -/
theorem FieldPath.ofSegments?_eq_some_iff
    {segments : List String}
    {p : FieldPath} :
    ofSegments? segments = some p ↔ p.segments = segments := by
  unfold ofSegments?
  constructor
  · intro h
    split at h
    · cases h
      rfl
    · cases h
  · intro h
    subst h
    rw [dif_pos ⟨p.segments_ne_nil, p.segment_ne_empty⟩]

namespace Reading

open Grammar

variable {α β : Type}

------------------------------------------------------------
-- Sequences
------------------------------------------------------------

/- Two readings succeed one behind the other. -/
theorem bind_eq_ok_iff
    {first : Reading α}
    {next : α → Reading β}
    {tokens rest : List Token}
    {value : β} :
    (first >>= next) tokens = .ok (value, rest) ↔
      ∃ v middle,
        first tokens = .ok (v, middle) ∧
          next v middle = .ok (value, rest) := by
  cases hFirst : first tokens with
  | error refusal =>
      simp [Bind.bind, StateT.bind, hFirst, Except.bind]
  | ok result =>
      rcases result with ⟨v, middle⟩
      simp only [Bind.bind, StateT.bind, hFirst, Except.bind,
        Except.ok.injEq, Prod.mk.injEq]
      constructor
      · intro h
        exact ⟨v, middle, ⟨rfl, rfl⟩, h⟩
      · rintro ⟨_, _, ⟨rfl, rfl⟩, h⟩
        exact h

/- Two readings fail where the first or the second fails. -/
theorem bind_eq_error_iff
    {first : Reading α}
    {next : α → Reading β}
    {tokens : List Token}
    {refusal : Refusal} :
    (first >>= next) tokens = .error refusal ↔
      first tokens = .error refusal ∨
        ∃ v middle,
          first tokens = .ok (v, middle) ∧
            next v middle = .error refusal := by
  cases hFirst : first tokens with
  | error found =>
      simp [Bind.bind, StateT.bind, hFirst, Except.bind]
  | ok result =>
      rcases result with ⟨v, middle⟩
      simp only [Bind.bind, StateT.bind, hFirst, Except.bind,
        reduceCtorEq, false_or, Except.ok.injEq,
        Prod.mk.injEq]
      constructor
      · intro h
        exact ⟨v, middle, ⟨rfl, rfl⟩, h⟩
      · rintro ⟨_, _, ⟨rfl, rfl⟩, h⟩
        exact h

/- A reading of nothing succeeds with its value. -/
theorem pure_eq_ok_iff
    {tokens rest : List Token}
    {v value : α} :
    (pure v : Reading α) tokens = .ok (value, rest) ↔
      v = value ∧ tokens = rest := by
  have hPure :
      (pure v : Reading α) tokens = .ok (v, tokens) :=
    rfl
  rw [hPure, Except.ok.injEq, Prod.mk.injEq]

------------------------------------------------------------
-- Single Tokens
------------------------------------------------------------

theorem expect_eq_ok_iff
    {kind : TokenKind}
    {expected : Expectation}
    {tokens rest : List Token}
    {t : Token} :
    expect kind expected tokens = .ok (t, rest) ↔
      tokens = t :: rest ∧ t.kind = kind := by
  cases tokens with
  | nil => simp [expect]
  | cons first tokens =>
      by_cases hKind : first.kind = kind
      · simp only [expect, if_pos hKind, Except.ok.injEq,
          Prod.mk.injEq, List.cons.injEq]
        constructor
        · rintro ⟨rfl, rfl⟩
          exact ⟨⟨rfl, rfl⟩, hKind⟩
        · exact fun h => h.1
      · simp only [expect, if_neg hKind, reduceCtorEq,
          List.cons.injEq, false_iff]
        rintro ⟨⟨rfl, _⟩, h⟩
        exact hKind h

theorem expect_eq_error_iff
    {kind : TokenKind}
    {expected : Expectation}
    {tokens : List Token}
    {refusal : Refusal} :
    expect kind expected tokens = .error refusal ↔
      refusal = .ahead expected tokens ∧
        ∀ t ∈ tokens.head?, t.kind ≠ kind := by
  cases tokens with
  | nil => simp [expect, eq_comm]
  | cons first tokens =>
      by_cases hKind : first.kind = kind
      · simp [expect, hKind]
      · simp only [expect, if_neg hKind, Except.error.injEq]
        constructor
        · rintro rfl
          refine ⟨rfl, ?_⟩
          intro t hT
          cases hT
          exact hKind
        · exact fun h => h.1.symm

theorem finish_eq_error_iff
    {expected : Expectation}
    {tokens : List Token}
    {refusal : Refusal} :
    finish expected tokens = .error refusal ↔
      refusal = .ahead expected tokens ∧ tokens ≠ [] := by
  cases tokens with
  | nil => simp [finish]
  | cons t tokens => simp [finish, eq_comm]

theorem finish_eq_ok_iff
    {expected : Expectation}
    {tokens rest : List Token}
    {value : Unit} :
    finish expected tokens = .ok (value, rest) ↔
      tokens = [] ∧ rest = [] := by
  cases tokens with
  | nil => simp [finish, eq_comm]
  | cons t tokens => simp [finish]

------------------------------------------------------------
-- Lines
------------------------------------------------------------

/- A line is read up to its end or to a kind to stop at. -/
theorem line_eq_ok_iff
    {stops : TokenKind → Bool}
    {tokens span rest : List Token} :
    line stops tokens = .ok (span, rest) ↔
      tokens = span ++ rest ∧
        (∀ t ∈ span,
          t.kind ≠ .newline ∧ stops t.kind = false) ∧
        ∀ t ∈ rest.head?,
          t.kind = .newline ∨ stops t.kind = true := by
  simp only [line, Except.ok.injEq, Prod.mk.injEq]
  constructor
  · rintro ⟨rfl, rfl⟩
    refine ⟨List.takeWhile_append_dropWhile.symm, ?_, ?_⟩
    · intro t hT
      simpa using of_mem_takeWhile t hT
    · intro t hT
      have hOutside := head?_dropWhile_outside t hT
      by_cases hLine : t.kind = .newline
      · exact .inl hLine
      · right
        simpa [hLine] using hOutside
  · rintro ⟨rfl, hSpan, hRest⟩
    constructor
    · apply takeWhile_run
      · simpa using hSpan
      · intro t hT
        rcases hRest t hT with hLine | hStop
        · simp [hLine]
        · simp [hStop]
    · apply dropWhile_run
      · simpa using hSpan
      · intro t hT
        rcases hRest t hT with hLine | hStop
        · simp [hLine]
        · simp [hStop]

/- Skipping succeeds; it takes a token of its kind or none. -/
theorem exists_skip
    (kind : TokenKind)
    (tokens : List Token) :
    ∃ (taken : Option Token) (rest : List Token),
      skip kind tokens = .ok ((), rest) ∧
        tokens = taken.toList ++ rest ∧
        ∀ t ∈ taken, t.kind = kind := by
  cases tokens with
  | nil => exact ⟨none, [], rfl, rfl, by simp⟩
  | cons t tokens =>
      by_cases hKind : t.kind = kind
      · refine ⟨some t, tokens, ?_, rfl, by simp [hKind]⟩
        simp [skip, hKind]
      · refine ⟨none, t :: tokens, ?_, rfl, by simp⟩
        simp [skip, hKind]

------------------------------------------------------------
-- Names
------------------------------------------------------------

/- The last of further names is no dot. -/
theorem names_append_stop
    {tokens rest : List Token}
    {names : List String}
    (hNames : Names tokens names)
    (hRest : ∀ d ∈ rest.head?, d.kind ≠ .symbol .dot) :
    moreNames (tokens ++ rest) = .ok (names, rest) := by
  induction hNames with
  | none =>
      match rest, hRest with
      | [], _ => rfl
      | [d], hRest =>
          have hDot : d.kind ≠ .symbol .dot := hRest d rfl
          simp [moreNames, hDot]
      | d :: t :: tokens, hRest =>
          have hDot : d.kind ≠ .symbol .dot := hRest d rfl
          simp [moreNames, hDot]
  | more hDot hName hMore ih =>
      simp [moreNames, hDot, hName, ih]

/- What reading further names takes, and where it stops. -/
theorem names_of_moreNames
    {tokens rest : List Token}
    {names : List String}
    (h : moreNames tokens = .ok (names, rest)) :
    ∃ taken,
      tokens = taken ++ rest ∧ Names taken names ∧
        ∀ d ∈ rest.head?, d.kind ≠ .symbol .dot := by
  fun_induction moreNames tokens generalizing names with
  | case1 =>
      cases h
      exact ⟨[], rfl, .none, by simp⟩
  | case2 d hDot => cases h
  | case3 d hDot =>
      cases h
      exact ⟨[], rfl, .none, by simpa using hDot⟩
  | case4 d t tokens hDot hName found rest' hMore ih =>
      cases h
      rcases ih hMore with ⟨taken, rfl, hNames, hRest⟩
      exact
        ⟨d :: t :: taken, rfl, .more hDot hName hNames,
          hRest⟩
  | case5 d t tokens hDot hName refusal hMore ih => cases h
  | case6 d t tokens hDot hName => cases h
  | case7 d t tokens hDot =>
      cases h
      exact ⟨[], rfl, .none, by simpa using hDot⟩

/- Further names are read as far as dots go on. -/
theorem moreNames_eq_ok_iff
    {tokens rest : List Token}
    {names : List String} :
    moreNames tokens = .ok (names, rest) ↔
      ∃ taken,
        tokens = taken ++ rest ∧ Names taken names ∧
          ∀ d ∈ rest.head?, d.kind ≠ .symbol .dot := by
  constructor
  · exact names_of_moreNames
  · rintro ⟨taken, rfl, hNames, hRest⟩
    exact names_append_stop hNames hRest

/- Names and a dot without a name behind it are refused. -/
theorem names_append_dot
    {tokens rest : List Token}
    {names : List String}
    {dot : Token}
    (hNames : Names tokens names)
    (hDot : dot.kind = .symbol .dot)
    (hRest : ∀ t ∈ rest.head?, t.kind ≠ .identifier) :
    moreNames (tokens ++ dot :: rest) =
      .error (.ahead .fieldNameAfterDot rest) := by
  induction hNames with
  | none =>
      cases rest with
      | nil => simp [moreNames, hDot]
      | cons t rest => simp [moreNames, hDot, hRest t rfl]
  | more hFirst hName hMore ih =>
      simp [moreNames, hFirst, hName, ih]

/- Further names are refused only behind a dot. -/
theorem names_of_refusal
    {tokens : List Token}
    {refusal : Refusal}
    (h : moreNames tokens = .error refusal) :
    ∃ taken names dot rest,
      tokens = taken ++ dot :: rest ∧
        Names taken names ∧
        dot.kind = .symbol .dot ∧
        (∀ t ∈ rest.head?, t.kind ≠ .identifier) ∧
        refusal = .ahead .fieldNameAfterDot rest := by
  fun_induction moreNames tokens with
  | case1 => cases h
  | case2 d hDot =>
      cases h
      exact ⟨[], [], d, [], rfl, .none, hDot, by simp, rfl⟩
  | case3 d hDot => cases h
  | case4 d t tokens hDot hName found rest' hMore ih => cases h
  | case5 d t tokens hDot hName found hMore ih =>
      cases h
      rcases ih hMore with
        ⟨taken, names, dot, rest, rfl, hNames, hLast⟩
      exact
        ⟨d :: t :: taken, t.lexeme :: names, dot, rest, rfl,
          .more hDot hName hNames, hLast⟩
  | case6 d t tokens hDot hName =>
      cases h
      exact
        ⟨[], [], d, t :: tokens, rfl, .none, hDot,
          by simpa using hName, rfl⟩
  | case7 d t tokens hDot => cases h

/- Further names are refused where a dot has none behind it. -/
theorem moreNames_eq_error_iff
    {tokens : List Token}
    {refusal : Refusal} :
    moreNames tokens = .error refusal ↔
      ∃ taken names dot rest,
        tokens = taken ++ dot :: rest ∧
          Names taken names ∧
          dot.kind = .symbol .dot ∧
          (∀ t ∈ rest.head?, t.kind ≠ .identifier) ∧
          refusal = .ahead .fieldNameAfterDot rest := by
  constructor
  · exact names_of_refusal
  · rintro ⟨taken, names, dot, rest, rfl, hNames, hDot, hRest,
      rfl⟩
    exact names_append_dot hNames hDot hRest

/- A path is read as far as dots go on. -/
theorem path_eq_ok_iff
    {tokens rest : List Token}
    {p : FieldPath} :
    path tokens = .ok (p, rest) ↔
      ∃ first taken names,
        tokens = first :: taken ++ rest ∧
          first.kind = .identifier ∧
          Names taken names ∧
          p.segments = first.lexeme :: names ∧
          ∀ d ∈ rest.head?, d.kind ≠ .symbol .dot := by
  simp only [path, bind_eq_ok_iff, expect_eq_ok_iff,
    moreNames_eq_ok_iff]
  constructor
  · rintro ⟨first, _, ⟨rfl, hFirst⟩, names, rest',
      ⟨taken, rfl, hNames, hRest⟩, hPath⟩
    cases hSegments :
        FieldPath.ofSegments? (first.lexeme :: names) with
    | none =>
        rw [hSegments] at hPath
        cases hPath
    | some q =>
        rw [hSegments] at hPath
        rcases pure_eq_ok_iff.mp hPath with ⟨rfl, rfl⟩
        exact
          ⟨first, taken, names, rfl, hFirst, hNames,
            FieldPath.ofSegments?_eq_some_iff.mp hSegments,
            hRest⟩
  · rintro ⟨first, taken, names, rfl, hFirst, hNames,
      hSegments, hRest⟩
    refine
      ⟨first, taken ++ rest, ⟨rfl, hFirst⟩, names, rest,
        ⟨taken, rfl, hNames, hRest⟩, ?_⟩
    rw [FieldPath.ofSegments?_eq_some_iff.mpr hSegments]
    exact pure_eq_ok_iff.mpr ⟨rfl, rfl⟩

end Reading

------------------------------------------------------------
-- Readers
------------------------------------------------------------

namespace Reader

variable {α : Type}

/- A reader has the tokens before the first end ahead. -/
theorem ofTokens_append_cons
    {tokens : List Token}
    {stop : Token}
    (hTokens : ∀ t ∈ tokens, t.kind ≠ .finish)
    (hStop : stop.kind = .finish)
    (beyond : List Token) :
    ofTokens (tokens ++ stop :: beyond) = ⟨tokens, stop⟩ := by
  have hAhead :
      (tokens ++ stop :: beyond).takeWhile (·.kind != .finish) =
        tokens := by
    rw [List.takeWhile_append_of_pos (by simpa using hTokens)]
    simp [hStop]
  have hFound :
      (tokens ++ stop :: beyond).find? (·.kind == .finish) =
        some stop := by
    have hNone :
        tokens.find? (·.kind == .finish) = none := by
      simpa using hTokens
    simp [hNone, hStop]
  simp only [ofTokens, hAhead, hFound, Option.getD_some]

/- A reader of tokens and one end has all of them ahead. -/
theorem ofTokens_concat
    {tokens : List Token}
    {stop : Token}
    (hTokens : ∀ t ∈ tokens, t.kind ≠ .finish)
    (hStop : stop.kind = .finish) :
    ofTokens (tokens ++ [stop]) = ⟨tokens, stop⟩ :=
  ofTokens_append_cons hTokens hStop []

/- A reader of tokens without an end has all of them ahead. -/
theorem ahead_ofTokens
    {tokens : List Token}
    (h : ∀ t ∈ tokens, t.kind ≠ .finish) :
    (ofTokens tokens).ahead = tokens := by
  have hRun : ∀ t ∈ tokens, (t.kind != .finish) = true := by
    simpa using h
  have hTake :=
    @takeWhile_run _ _ tokens [] hRun (by simp)
  rwa [List.append_nil] at hTake

/- Such a reader stops one spelling behind the last of them. -/
theorem ofTokens_of_unfinished
    {tokens : List Token}
    (h : ∀ t ∈ tokens, t.kind ≠ .finish) :
    ofTokens tokens = ⟨tokens, endOf tokens⟩ := by
  have hNone :
      tokens.find? (·.kind == .finish) = none := by
    simpa using h
  have hAhead := ahead_ofTokens h
  simp only [ofTokens] at hAhead ⊢
  rw [hAhead, hNone, Option.getD_none]

/- The results of a reader are those of its reading. -/
theorem run_ok_iff
    {reading : Reading α}
    {reader : Reader}
    {value : α} :
    (reader.run reading).1 = .ok value ↔
      ∃ rest, reading reader.ahead = .ok (value, rest) := by
  unfold run
  cases hRead : reading reader.ahead with
  | ok result =>
      rcases result with ⟨v, rest⟩
      simp
  | error refusal => simp

/- What a reader leaves is ahead of it afterwards. -/
theorem ahead_of_run
    {reading : Reading α}
    {reader after : Reader}
    {value : α}
    (h : reader.run reading = (.ok value, after)) :
    reading reader.ahead = .ok (value, after.ahead) := by
  unfold run at h
  cases hRead : reading reader.ahead with
  | ok result =>
      rw [hRead] at h
      cases h
      rfl
  | error refusal =>
      rw [hRead] at h
      cases h

/-
  The errors of a reader are the refusals of its reading, where
  the end of the reader is found if no token is.
-/
theorem run_error_iff
    {reading : Reading α}
    {reader : Reader}
    {error : ParseError} :
    (reader.run reading).1 = .error error ↔
      ∃ refusal,
        reading reader.ahead = .error refusal ∧
          error =
            ⟨refusal.expected,
              refusal.found.getD reader.stop⟩ := by
  unfold run
  cases hRead : reading reader.ahead with
  | ok result => simp
  | error refusal => simp [eq_comm]

/- So they expect what the reading expects. -/
theorem refusal_of_run
    {reading : Reading α}
    {reader : Reader}
    {error : ParseError}
    (h : (reader.run reading).1 = .error error) :
    ∃ refusal,
      reading reader.ahead = .error refusal ∧
        refusal.expected = error.expected := by
  rcases run_error_iff.mp h with ⟨refusal, hRead, rfl⟩
  exact ⟨refusal, hRead, rfl⟩

end Reader

end Rulebook
