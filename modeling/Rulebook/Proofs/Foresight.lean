import Rulebook.Proofs.Reading

/-
  A refusal is timely if it finds the first token that cannot
  stand where it stands: what comes before it can go on to
  something that is accepted, but not with this token.

  A reading foresees what it refuses if it decides by one token
  ahead.  This is told by kinds of tokens: those that can come
  first in the reading, and those that can come behind it.  So
  readings in a row fit where these kinds are the same.

  Key definitions include:
    * `FirstImpossible`
    * `Timely`
    * `Reading.Opens`
    * `Reading.Leads`
    * `Reading.Gives`
    * `Reading.Halts`
    * `Reading.Foresees`

  Main results:
    * `Timely.firstImpossible`
    * `Reading.Foresees.bind`
    * `Reading.foresees_expect`
    * `Reading.foresees_line`
    * `Reading.foresees_moreNames`
    * `Reading.foresees_skip`
-/

namespace Rulebook

------------------------------------------------------------
-- The First Impossible Token
------------------------------------------------------------

/-
  Of some tokens one is the first that is impossible.  The ones
  before it go on to a list that is accepted, and no list that
  begins with it behind them is.  If it is the end of a text,
  they are no such list by themselves.
-/
structure FirstImpossible
    (accepts : List Token → Prop)
    (tokens : List Token)
    (k : Nat)
    (t : Token) : Prop where
  token : tokens[k]? = some t
  possible : ∃ more, accepts (tokens.take k ++ more)
  impossible :
    ∀ list, tokens.take (k + 1) <+: list → ¬ accepts list
  finish : t.kind = .finish → ¬ accepts (tokens.take k)

/- No token is the end of a text. -/
def Unended (tokens : List Token) : Prop :=
  ∀ t ∈ tokens, t.kind ≠ .finish

/- Lists without an end have none in a row. -/
theorem Unended.append
    {tokens more : List Token}
    (h : Unended tokens)
    (hMore : Unended more) : Unended (tokens ++ more) :=
  fun t hT => (List.mem_append.mp hT).elim (h t) (hMore t)

/-
  A refusal finds the token ahead, and comes neither too early
  nor too late: what was taken goes on to something that is
  accepted, but not with the token ahead.
-/
structure Timely
    (accepts : List Token → Prop)
    (taken : List Token)
    (refusal : Refusal) : Prop where
  found : refusal.found = refusal.rest.head?
  possible : ∃ more, Unended more ∧ accepts (taken ++ more)
  impossible :
    ∀ rest, rest.head? = refusal.rest.head? →
      ¬ accepts (taken ++ rest)

/- A refusal stays timely behind tokens that do not matter. -/
theorem Timely.prepend
    {accepts : List Token → Prop}
    {before taken : List Token}
    {refusal : Refusal}
    (h : Timely accepts taken refusal)
    (hBefore :
      ∀ tokens, accepts (before ++ tokens) ↔ accepts tokens) :
    Timely accepts (before ++ taken) refusal where
  found := h.found
  possible := by
    rcases h.possible with ⟨more, hMore, hAccepts⟩
    refine ⟨more, hMore, ?_⟩
    rw [List.append_assoc]
    exact (hBefore _).mpr hAccepts
  impossible rest hRest hAccepts := by
    rw [List.append_assoc] at hAccepts
    exact h.impossible rest hRest ((hBefore _).mp hAccepts)

/- Behind what was taken comes the token ahead, or the end. -/
theorem getElem?_behind_taken
    (taken rest : List Token)
    (stop : Token) :
    (taken ++ rest ++ [stop])[taken.length]? =
      some (rest.head?.getD stop) := by
  rw [List.append_assoc,
    List.getElem?_append_right (Nat.le_refl _), Nat.sub_self]
  cases rest <;> rfl

/- The reader of a list has what begins it ahead. -/
theorem Reader.ahead_ofTokens_append
    {tokens : List Token}
    (h : Unended tokens)
    (rest : List Token) :
    (ofTokens (tokens ++ rest)).ahead =
      tokens ++ (ofTokens rest).ahead :=
  List.takeWhile_append_of_pos (by simpa [Unended] using h)

/- What is found first is ahead of it, unless it is an end. -/
theorem Reader.head?_ahead_found
    {rest : List Token}
    {stop : Token}
    (hRest : Unended rest)
    (hStop : stop.kind = .finish)
    (back : List Token) :
    (ofTokens (rest.head?.getD stop :: back)).ahead.head? =
      rest.head? := by
  cases rest with
  | nil => simp [ofTokens, hStop]
  | cons t rest =>
      have hFirst : t.kind ≠ .finish := hRest t (by simp)
      simp [ofTokens, hFirst]

/-
  What a reader finds when it refuses in time is the first token
  that is impossible, or the end of the text behind them all.
-/
theorem Timely.firstImpossible
    {accepts : List Token → Prop}
    {taken : List Token}
    {refusal : Refusal}
    {stop : Token}
    (h : Timely accepts taken refusal)
    (hTokens : Unended (taken ++ refusal.rest))
    (hStop : stop.kind = .finish) :
    FirstImpossible
      (fun list => accepts (Reader.ofTokens list).ahead)
      (taken ++ refusal.rest ++ [stop])
      taken.length
      (refusal.found.getD stop) := by
  have hTaken : Unended taken :=
    fun t hT => hTokens t (List.mem_append_left _ hT)
  have hRest : Unended refusal.rest :=
    fun t hT => hTokens t (List.mem_append_right _ hT)
  have hFront :
      (taken ++ refusal.rest ++ [stop]).take taken.length =
        taken := by
    rw [List.append_assoc, List.take_left]
  have hFound :
      (taken ++ refusal.rest ++ [stop])[taken.length]? =
        some (refusal.found.getD stop) := by
    rw [h.found, getElem?_behind_taken]
  refine ⟨hFound, ?_, ?_, ?_⟩
  · rcases h.possible with ⟨more, hMore, hAccepts⟩
    refine ⟨more, ?_⟩
    rw [hFront, Reader.ahead_ofTokens (hTaken.append hMore)]
    exact hAccepts
  · rintro _ ⟨back, rfl⟩
    rw [List.take_add_one, hFront, hFound, h.found,
      List.append_assoc, Reader.ahead_ofTokens_append hTaken]
    exact
      h.impossible _
        (Reader.head?_ahead_found hRest hStop back)
  · intro hFinish
    rw [hFront, Reader.ahead_ofTokens hTaken,
      ← List.append_nil taken]
    apply h.impossible
    rw [h.found] at hFinish
    cases hAhead : refusal.rest with
    | nil => rfl
    | cons t rest =>
        rw [hAhead] at hRest hFinish
        exact absurd hFinish (hRest t (by simp))

------------------------------------------------------------
-- Names
------------------------------------------------------------

/- Further names with one more behind them. -/
theorem Grammar.Names.concat
    {tokens : List Token}
    {names : List String}
    {dot name : Token}
    (h : Names tokens names)
    (hDot : dot.kind = .symbol .dot)
    (hName : name.kind = .identifier) :
    Names (tokens ++ [dot, name])
      (names ++ [name.lexeme]) := by
  induction h with
  | none => exact .more hDot hName .none
  | more hFirstDot hFirst hMore ih =>
      exact .more hFirstDot hFirst ih

------------------------------------------------------------
-- What Begins A List
------------------------------------------------------------

namespace Reading

variable {α β : Type}
variable {first : Reading α}
variable {next : α → Reading β}
variable {reading : Reading α}
variable {ahead middle behind : TokenKind → Prop}

/- The first of the tokens, if there is one, is of a kind. -/
def Opens
    (kinds : TokenKind → Prop)
    (tokens : List Token) : Prop :=
  ∀ t ∈ tokens.head?, kinds t.kind

/- The tokens open a list with what may come behind them. -/
def Leads
    (ahead behind : TokenKind → Prop)
    (tokens : List Token) : Prop :=
  ∀ rest, Opens behind rest → Opens ahead (tokens ++ rest)

/- Nothing comes first in no tokens. -/
theorem opens_nil : Opens ahead [] := by
  intro t hT
  cases hT

/- Where no kind may come, nothing comes. -/
theorem eq_nil_of_opens
    {tokens : List Token}
    (h : Opens (fun _ => False) tokens) : tokens = [] := by
  cases tokens with
  | nil => rfl
  | cons t tokens => exact (h t rfl).elim

theorem Leads.append
    {tokens more : List Token}
    (h : Leads ahead middle tokens)
    (hMore : Leads middle behind more) :
    Leads ahead behind (tokens ++ more) := by
  intro rest hRest
  rw [List.append_assoc]
  exact h _ (hMore rest hRest)

/- What leads anywhere opens a list by itself. -/
theorem Leads.opens
    {tokens : List Token}
    (h : Leads ahead behind tokens) : Opens ahead tokens := by
  have hAlone := h [] opens_nil
  rwa [List.append_nil] at hAlone

/- A token is opened by its own kind. -/
theorem leads_cons
    {t : Token}
    {tokens : List Token}
    (h : ahead t.kind) : Leads ahead behind (t :: tokens) := by
  intro rest _ u hU
  cases hU
  exact h

/- Any tokens will do where any kind may come. -/
theorem leads_any
    {tokens : List Token} :
    Leads (fun _ => True) behind tokens :=
  fun _ _ _ _ => trivial

/- Where nothing may come behind, no tokens are needed. -/
theorem leads_nil : Leads ahead (fun _ => False) [] := by
  intro rest hRest
  rw [eq_nil_of_opens hRest]
  exact opens_nil

/- Only the token ahead, or none, matters for what was taken. -/
theorem head?_append_of_head?
    {taken rest rest' : List Token}
    (h : rest'.head? = rest.head?) :
    (taken ++ rest').head? = (taken ++ rest).head? := by
  rw [List.head?_append, List.head?_append, h]

------------------------------------------------------------
-- Foresight
------------------------------------------------------------

/-
  A value that was given for some tokens is given again before
  any rest with the same token ahead, or with one of the kinds
  that the reading leaves.
-/
structure Gives
    (ahead behind : TokenKind → Prop)
    (reading : Reading α)
    (value : α)
    (taken rest : List Token) : Prop where
  again :
    ∀ rest', rest'.head? = rest.head? ∨ Opens behind rest' →
      reading (taken ++ rest') = .ok (value, rest')
  nothing : taken = [] → Leads ahead behind []

/-
  A refusal behind some tokens is one before any rest with the
  same token ahead.  What would have been possible can come
  first in the reading, if nothing was taken before it.
-/
structure Halts
    (ahead behind : TokenKind → Prop)
    (reading : Reading α)
    (taken : List Token)
    (refusal : Refusal) : Prop where
  found : refusal.found = refusal.rest.head?
  again :
    ∀ rest, rest.head? = refusal.rest.head? →
      ∃ other, reading (taken ++ rest) = .error other
  possible :
    ∃ more value,
      Unended more ∧
        (taken = [] → Leads ahead behind more) ∧
        reading (taken ++ more) = .ok (value, [])

/-
  A refusal stays one behind tokens that only change the value.
-/
theorem Halts.prepend
    {before taken : List Token}
    {refusal : Refusal}
    {change : α → α}
    (h : Halts (fun _ => True) behind reading taken refusal)
    (hBefore :
      ∀ tokens,
        reading (before ++ tokens) =
          (reading tokens).map fun r => (change r.1, r.2)) :
    Halts (fun _ => True) behind reading (before ++ taken)
      refusal where
  found := h.found
  again rest hRest := by
    rcases h.again rest hRest with ⟨other, hOther⟩
    refine ⟨other, ?_⟩
    rw [List.append_assoc, hBefore, hOther]
    rfl
  possible := by
    rcases h.possible with ⟨more, value, hMore, _, hRead⟩
    refine ⟨more, change value, hMore, fun _ => leads_any, ?_⟩
    rw [List.append_assoc, hBefore, hRead]
    rfl

/-
  A reading foresees what it refuses.  Something can be read by
  it, and its values and refusals depend on the tokens it takes
  and on the next one only.
-/
structure Foresees
    (ahead behind : TokenKind → Prop)
    (reading : Reading α) : Prop where
  starts :
    ∃ more value,
      Unended more ∧
        Leads ahead behind more ∧
        reading more = .ok (value, [])
  gives :
    ∀ tokens value rest,
      reading tokens = .ok (value, rest) →
        ∃ taken,
          tokens = taken ++ rest ∧
            Gives ahead behind reading value taken rest
  halts :
    ∀ tokens refusal,
      reading tokens = .error refusal →
        ∃ taken,
          tokens = taken ++ refusal.rest ∧
            Halts ahead behind reading taken refusal

/-
  Behind what was taken, the tokens of another reading leave
  the first one as it was.
-/
theorem Gives.again_before
    {value : α}
    {taken inner rest rest' : List Token}
    (h : Gives ahead middle reading value taken (inner ++ rest))
    (hInner : inner = [] → Leads middle behind [])
    (hRest : rest'.head? = rest.head? ∨ Opens behind rest') :
    reading (taken ++ (inner ++ rest')) =
      .ok (value, inner ++ rest') := by
  apply h.again
  rcases hRest with hSame | hOpens
  · exact .inl (head?_append_of_head? hSame)
  · cases inner with
    | nil => exact .inr (hInner rfl rest' hOpens)
    | cons t inner => exact .inl rfl

/- What was read to the end can be read by both in a row. -/
theorem Foresees.exists_more
    {value : α}
    {tokens : List Token}
    (hFirst : Foresees ahead middle first)
    (hNext : ∀ value, Foresees middle behind (next value))
    (h : first tokens = .ok (value, [])) :
    ∃ more final,
      Unended more ∧
        Leads middle behind more ∧
        (first >>= next) (tokens ++ more) =
          .ok (final, []) := by
  rcases hFirst.gives _ _ _ h with ⟨taken, hTaken, hGives⟩
  rcases (hNext value).starts with
    ⟨more, final, hMore, hLeads, hRead⟩
  rw [List.append_nil] at hTaken
  subst hTaken
  exact
    ⟨more, final, hMore, hLeads,
      bind_eq_ok_iff.mpr
        ⟨value, more, hGives.again more (.inr hLeads.opens),
          hRead⟩⟩

/- Readings in a row foresee what they refuse. -/
theorem Foresees.bind
    (hFirst : Foresees ahead middle first)
    (hNext : ∀ value, Foresees middle behind (next value)) :
    Foresees ahead behind (first >>= next) where
  starts := by
    rcases hFirst.starts with
      ⟨tokens, value, hTokens, hLeads, hRead⟩
    rcases hFirst.exists_more hNext hRead with
      ⟨more, final, hMore, hBehind, hBoth⟩
    exact
      ⟨tokens ++ more, final, hTokens.append hMore,
        hLeads.append hBehind, hBoth⟩
  gives tokens value rest h := by
    rcases bind_eq_ok_iff.mp h with
      ⟨found, between, hFound, hValue⟩
    rcases hFirst.gives _ _ _ hFound with
      ⟨taken, rfl, hGives⟩
    rcases (hNext found).gives _ _ _ hValue with
      ⟨inner, rfl, hInner⟩
    refine
      ⟨taken ++ inner, (List.append_assoc _ _ _).symm, ?_, ?_⟩
    · intro rest' hRest
      rw [List.append_assoc]
      exact
        bind_eq_ok_iff.mpr
          ⟨found, inner ++ rest',
            hGives.again_before hInner.nothing hRest,
            hInner.again rest' hRest⟩
    · intro hNone
      rcases List.append_eq_nil_iff.mp hNone with
        ⟨hTaken, hEmpty⟩
      exact (hGives.nothing hTaken).append (hInner.nothing hEmpty)
  halts tokens refusal h := by
    rcases bind_eq_error_iff.mp h with
      hRefused | ⟨found, between, hFound, hRefused⟩
    · -- The first one refuses; the other can start behind it.
      rcases hFirst.halts _ _ hRefused with
        ⟨taken, hTokens, hHalts⟩
      refine ⟨taken, hTokens, hHalts.found, ?_, ?_⟩
      · intro rest hRest
        rcases hHalts.again rest hRest with ⟨other, hOther⟩
        exact ⟨other, bind_eq_error_iff.mpr (.inl hOther)⟩
      · rcases hHalts.possible with
          ⟨tokens, value, hUnended, hLeads, hRead⟩
        rcases hFirst.exists_more hNext hRead with
          ⟨more, final, hMore, hBehind, hBoth⟩
        rw [List.append_assoc] at hBoth
        exact
          ⟨tokens ++ more, final, hUnended.append hMore,
            fun hTaken => (hLeads hTaken).append hBehind,
            hBoth⟩
    · -- The other one refuses; its tokens are such as the
      -- first one leaves.
      rcases hFirst.gives _ _ _ hFound with
        ⟨taken, rfl, hGives⟩
      rcases (hNext found).halts _ _ hRefused with
        ⟨inner, rfl, hHalts⟩
      refine
        ⟨taken ++ inner, (List.append_assoc _ _ _).symm,
          hHalts.found, ?_, ?_⟩
      · intro rest hRest
        rcases hHalts.again rest hRest with ⟨other, hOther⟩
        refine ⟨other, ?_⟩
        rw [List.append_assoc]
        exact
          bind_eq_error_iff.mpr
            (.inr
              ⟨found, inner ++ rest,
                hGives.again _
                  (.inl (head?_append_of_head? hRest)),
                hOther⟩)
      · rcases hHalts.possible with
          ⟨more, final, hUnended, hLeads, hRead⟩
        refine ⟨more, final, hUnended, ?_, ?_⟩
        · intro hNone
          rcases List.append_eq_nil_iff.mp hNone with
            ⟨hTaken, hEmpty⟩
          exact (hGives.nothing hTaken).append (hLeads hEmpty)
        · have hBefore :
              first (taken ++ (inner ++ more)) =
                .ok (found, inner ++ more) := by
            apply hGives.again
            cases inner with
            | nil => exact .inr (hLeads rfl).opens
            | cons t inner => exact .inl rfl
          rw [List.append_assoc]
          exact
            bind_eq_ok_iff.mpr
              ⟨found, inner ++ more, hBefore, hRead⟩

------------------------------------------------------------
-- Small Readings
------------------------------------------------------------

/- A reading of nothing leaves what was left before. -/
theorem foresees_pure (value : α) :
    Foresees behind behind (pure value : Reading α) where
  starts :=
    ⟨[], value, by simp [Unended], fun _ hRest => hRest, rfl⟩
  gives tokens found rest h := by
    rcases pure_eq_ok_iff.mp h with ⟨rfl, rfl⟩
    exact
      ⟨[], rfl, fun _ _ => rfl, fun _ _ hRest => hRest⟩
  halts tokens refusal h := by cases h

/- One token is expected, whatever comes behind it. -/
theorem foresees_expect
    {kind : TokenKind}
    {expected : Expectation}
    (hOpens : ahead kind)
    (hKind : kind ≠ .finish) :
    Foresees ahead (fun _ => True) (expect kind expected) where
  starts := by
    refine
      ⟨[⟨kind, "", .start⟩], _, ?_, leads_cons hOpens,
        expect_eq_ok_iff.mpr ⟨rfl, rfl⟩⟩
    simpa [Unended] using hKind
  gives tokens t rest h := by
    rcases expect_eq_ok_iff.mp h with ⟨rfl, hT⟩
    refine ⟨[t], rfl, ?_, by simp⟩
    intro rest' _
    exact expect_eq_ok_iff.mpr ⟨rfl, hT⟩
  halts tokens refusal h := by
    rcases expect_eq_error_iff.mp h with ⟨rfl, hOther⟩
    refine ⟨[], rfl, rfl, ?_, ?_⟩
    · intro rest hRest
      refine
        ⟨_, expect_eq_error_iff.mpr ⟨rfl, ?_⟩⟩
      intro t hT
      rw [List.nil_append, hRest] at hT
      exact hOther t hT
    · refine
        ⟨[⟨kind, "", .start⟩], _, ?_,
          fun _ => leads_cons hOpens,
          expect_eq_ok_iff.mpr ⟨rfl, rfl⟩⟩
      simpa [Unended] using hKind

/- A line leaves its end or a kind to stop at. -/
theorem foresees_line (stops : TokenKind → Bool) :
    Foresees (fun _ => True)
      (fun kind => kind = .newline ∨ stops kind = true)
      (line stops) where
  starts :=
    ⟨[], [], by simp [Unended], leads_any, rfl⟩
  gives tokens span rest h := by
    rcases line_eq_ok_iff.mp h with ⟨rfl, hSpan, hRest⟩
    refine ⟨span, rfl, ?_, fun _ => leads_any⟩
    intro rest' hAhead
    refine line_eq_ok_iff.mpr ⟨rfl, hSpan, ?_⟩
    rcases hAhead with hSame | hOpens
    · rwa [hSame]
    · exact hOpens
  halts tokens refusal h := by cases h

/- A token that was not skipped is left, or nothing is. -/
theorem foresees_skip (kind : TokenKind) :
    Foresees ahead (fun _ => False) (skip kind) where
  starts := by
    exact ⟨[], (), by simp [Unended], leads_nil, rfl⟩
  gives tokens value rest h := by
    cases tokens with
    | nil =>
        cases h
        refine ⟨[], rfl, ?_, fun _ => leads_nil⟩
        rintro rest' (hSame | hOpens)
        · rw [List.head?_eq_none_iff.mp hSame]
          rfl
        · rw [eq_nil_of_opens hOpens]
          rfl
    | cons t tokens =>
        by_cases hKind : t.kind = kind
        · rw [skip, if_pos hKind] at h
          cases h
          refine ⟨[t], rfl, ?_, by simp⟩
          intro rest' _
          exact if_pos hKind
        · rw [skip, if_neg hKind] at h
          cases h
          refine ⟨[], rfl, ?_, fun _ => leads_nil⟩
          rintro rest' (hSame | hOpens)
          · cases rest' with
            | nil => cases hSame
            | cons u rest' =>
                cases hSame
                exact if_neg hKind
          · rw [eq_nil_of_opens hOpens]
            rfl
  halts tokens refusal h := by
    rcases exists_skip kind tokens with ⟨taken, rest, hSkip, _⟩
    rw [hSkip] at h
    cases h

/- Names go on as long as dots do. -/
theorem foresees_moreNames :
    Foresees (fun _ => True) (· ≠ .symbol .dot)
      moreNames where
  starts :=
    ⟨[], [], by simp [Unended], leads_any, rfl⟩
  gives tokens names rest h := by
    rcases moreNames_eq_ok_iff.mp h with
      ⟨taken, rfl, hNames, hRest⟩
    refine ⟨taken, rfl, ?_, fun _ => leads_any⟩
    intro rest' hAhead
    refine
      moreNames_eq_ok_iff.mpr ⟨taken, rfl, hNames, ?_⟩
    rcases hAhead with hSame | hOpens
    · rwa [hSame]
    · exact hOpens
  halts tokens refusal h := by
    rcases moreNames_eq_error_iff.mp h with
      ⟨taken, names, dot, rest, rfl, hNames, hDot, hRest, rfl⟩
    refine
      ⟨taken ++ [dot], by simp [Refusal.ahead], rfl, ?_, ?_⟩
    · intro rest' hSame
      refine
        ⟨_, moreNames_eq_error_iff.mpr
          ⟨taken, names, dot, rest', by simp, hNames, hDot, ?_,
            rfl⟩⟩
      rw [hSame]
      exact hRest
    · let name : Token := ⟨.identifier, "", .start⟩
      have hName : name.kind = .identifier := rfl
      refine
        ⟨[name], _, by simp [Unended, hName],
          fun _ => leads_any,
          moreNames_eq_ok_iff.mpr
            ⟨_, ?_, hNames.concat hDot hName, by simp⟩⟩
      simp

end Reading

end Rulebook
