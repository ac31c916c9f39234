import Rulebook.Proofs.Expr.Correctness

/-
  Where the readings of paths and expressions refuse: at the
  token ahead, except that a number that cannot be read counts
  as taken.

  Key definitions include:
    * `Reading.Refuses`
    * `Reading.Orderly`

  Main results:
    * `Reading.refuses_path`
    * `Reading.Orderly.bind`
    * `Expr.refuses_reading`
    * `Expr.refuses_readingAll`
-/

namespace Rulebook

namespace Reading

------------------------------------------------------------
-- Refusals
------------------------------------------------------------

/-
  A refusal of tokens.  Of the tokens taken before it, the last
  is to blame if it is a number that cannot be read, and one of
  them is if they cannot form a path; else it is the next one.
-/
inductive Refuses : List Token → Refusal → Prop where
  | number
      {before rest : List Token}
      {t : Token}
      (hKind : t.kind = .number)
      (hUnread : Number.ofNumeral? t.lexeme = none) :
      Refuses (before ++ t :: rest)
        ⟨.numberLiteral, some t, rest⟩
  | path
      {before rest : List Token}
      (hEmpty :
        ∃ t ∈ before, t.kind = .identifier ∧ t.lexeme = "") :
      Refuses (before ++ rest) (.ahead .fieldPath rest)
  | ahead
      {before rest : List Token}
      {expected : Expectation}
      (hNumber : expected ≠ .numberLiteral)
      (hPath : expected ≠ .fieldPath) :
      Refuses (before ++ rest) (.ahead expected rest)

namespace Refuses

/- The first of the tokens is refused. -/
theorem first
    {tokens : List Token}
    {expected : Expectation}
    (hNumber : expected ≠ .numberLiteral)
    (hPath : expected ≠ .fieldPath) :
    Refuses tokens (.ahead expected tokens) :=
  @Refuses.ahead [] tokens expected hNumber hPath

/- A refusal stays one with more tokens taken before it. -/
theorem behind
    {tokens : List Token}
    {refusal : Refusal}
    (h : Refuses tokens refusal)
    (before : List Token) :
    Refuses (before ++ tokens) refusal := by
  cases h with
  | number hKind hUnread =>
      rw [← List.append_assoc]
      exact .number hKind hUnread
  | path hEmpty =>
      rcases hEmpty with ⟨t, hT, hBlame⟩
      rw [← List.append_assoc]
      exact .path ⟨t, List.mem_append_right _ hT, hBlame⟩
  | ahead hNumber hPath =>
      rw [← List.append_assoc]
      exact .ahead hNumber hPath

end Refuses

------------------------------------------------------------
-- Paths
------------------------------------------------------------

/- Further names are refused where a name is missing. -/
theorem refuses_moreNames
    {tokens : List Token}
    {refusal : Refusal}
    (h : moreNames tokens = .error refusal) :
    Refuses tokens refusal := by
  rcases moreNames_eq_error_iff.mp h with
    ⟨taken, names, dot, rest, rfl, _, _, _, rfl⟩
  rw [List.append_cons]
  exact .ahead (by simp) (by simp)

/- Names that come from no empty lexemes are not empty. -/
theorem exists_empty_of_names
    {tokens : List Token}
    {names : List String}
    (h : Grammar.Names tokens names)
    (hEmpty : "" ∈ names) :
    ∃ t ∈ tokens, t.kind = .identifier ∧ t.lexeme = "" := by
  induction h with
  | none => cases hEmpty
  | @more dot name tokens names hDot hName hMore ih =>
      rcases List.mem_cons.mp hEmpty with hHere | hThere
      · exact ⟨name, by simp, hName, hHere.symm⟩
      · rcases ih hThere with ⟨t, hT, hBlame⟩
        exact ⟨t, by simp [hT], hBlame⟩

/- Segments that are no path have an empty one. -/
theorem exists_empty_of_ofSegments?
    {first : String}
    {names : List String}
    (h :
      FieldPath.ofSegments? (first :: names) = none) :
    first = "" ∨ "" ∈ names := by
  unfold FieldPath.ofSegments? at h
  split at h
  · cases h
  · rename_i hBad
    by_cases hEmpty : "" ∈ first :: names
    · simpa [eq_comm] using hEmpty
    · refine absurd ⟨by simp, ?_⟩ hBad
      rintro s hMember rfl
      exact hEmpty hMember

/- A path is refused as a whole only for an empty name. -/
theorem refuses_path
    {tokens : List Token}
    {refusal : Refusal}
    (h : path tokens = .error refusal) :
    Refuses tokens refusal := by
  rcases bind_eq_error_iff.mp h with
    hExpect | ⟨first, rest, hExpect, hNames⟩
  · rcases expect_eq_error_iff.mp hExpect with ⟨rfl, _⟩
    exact .first (by simp) (by simp)
  · rcases expect_eq_ok_iff.mp hExpect with ⟨rfl, hFirst⟩
    rcases bind_eq_error_iff.mp hNames with
      hNames | ⟨names, rest', hNames, hPath⟩
    · exact (refuses_moreNames hNames).behind [first]
    · rcases moreNames_eq_ok_iff.mp hNames with
        ⟨taken, rfl, hTaken, _⟩
      cases hSegments :
          FieldPath.ofSegments? (first.lexeme :: names) with
      | some p =>
          rw [hSegments] at hPath
          cases hPath
      | none =>
          rw [hSegments] at hPath
          cases hPath
          have hBlame :
              ∃ t ∈ first :: taken,
                t.kind = .identifier ∧ t.lexeme = "" := by
            rcases exists_empty_of_ofSegments? hSegments with
              hHere | hThere
            · exact ⟨first, by simp, hFirst, hHere⟩
            · rcases exists_empty_of_names hTaken hThere with
                ⟨t, hT, hEmpty⟩
              exact ⟨t, by simp [hT], hEmpty⟩
          exact @Refuses.path (first :: taken) rest' hBlame

------------------------------------------------------------
-- Orderly Readings
------------------------------------------------------------

variable {α β : Type}

/- A path takes tokens from the front only. -/
theorem leavesSuffix_path : LeavesSuffix path := by
  intro tokens p rest h
  rcases path_eq_ok_iff.mp h with
    ⟨first, taken, names, rfl, _⟩
  exact List.suffix_append _ _

theorem leavesSuffix_finish (expected : Expectation) :
    LeavesSuffix (finish expected) := by
  intro tokens value rest h
  rw [(finish_eq_ok_iff.mp h).2]
  exact List.nil_suffix

/-
  A reading takes tokens from the front only, and refuses where
  it stops: the token ahead, or a number that it has just taken.
-/
structure Orderly (reading : Reading α) : Prop where
  leaves : LeavesSuffix reading
  refuses :
    ∀ tokens refusal,
      reading tokens = .error refusal →
        Refuses tokens refusal

theorem orderly_pure (value : α) :
    Orderly (pure value : Reading α) where
  leaves := leavesSuffix_pure value
  refuses := by
    intro tokens refusal h
    cases h

/- What the first reading took stands before the refusal. -/
theorem Orderly.bind
    {first : Reading α}
    {next : α → Reading β}
    (hFirst : Orderly first)
    (hNext : ∀ value, Orderly (next value)) :
    Orderly (first >>= next) where
  leaves := hFirst.leaves.bind fun value => (hNext value).leaves
  refuses := by
    intro tokens refusal h
    rcases bind_eq_error_iff.mp h with
      hHere | ⟨value, middle, hRun, hThere⟩
    · exact hFirst.refuses tokens refusal hHere
    · rcases hFirst.leaves tokens value middle hRun with
        ⟨taken, rfl⟩
      exact
        ((hNext value).refuses middle refusal hThere).behind
          taken

theorem orderly_expect
    {kind : TokenKind}
    {expected : Expectation}
    (hNumber : expected ≠ .numberLiteral)
    (hPath : expected ≠ .fieldPath) :
    Orderly (expect kind expected) where
  leaves := leavesSuffix_expect kind expected
  refuses := by
    intro tokens refusal h
    rcases expect_eq_error_iff.mp h with ⟨rfl, _⟩
    exact .first hNumber hPath

theorem orderly_finish
    {expected : Expectation}
    (hNumber : expected ≠ .numberLiteral)
    (hPath : expected ≠ .fieldPath) :
    Orderly (finish expected) where
  leaves := leavesSuffix_finish expected
  refuses := by
    intro tokens refusal h
    rcases finish_eq_error_iff.mp h with ⟨rfl, _⟩
    exact .first hNumber hPath

theorem orderly_skip (kind : TokenKind) :
    Orderly (skip kind) where
  leaves := leavesSuffix_skip kind
  refuses := by
    intro tokens refusal h
    rcases exists_skip kind tokens with ⟨taken, rest, hRun, _⟩
    rw [hRun] at h
    cases h

theorem orderly_line (stops : TokenKind → Bool) :
    Orderly (line stops) where
  leaves := leavesSuffix_line stops
  refuses := by
    intro tokens refusal h
    cases h

theorem orderly_moreNames : Orderly moreNames where
  leaves := leavesSuffix_moreNames
  refuses _ _ := refuses_moreNames

theorem orderly_path : Orderly path where
  leaves := leavesSuffix_path
  refuses _ _ := refuses_path

end Reading

------------------------------------------------------------
-- Expressions
------------------------------------------------------------

namespace Expr

open Reading

/- A literal or a path is refused at its first token. -/
theorem refuses_readAtom
    {t : Token}
    {tokens : List Token}
    {refusal : Refusal}
    (h : (readAtom t tokens).result = .error refusal) :
    Refuses (t :: tokens) refusal := by
  cases hValue : Value.ofToken? t with
  | some value =>
      rw [result_readAtom_literal hValue] at h
      cases h
  | none =>
      by_cases hNumber : t.kind = .number
      · rw [result_readAtom_number hNumber hValue] at h
        cases h
        have hUnread : Number.ofNumeral? t.lexeme = none := by
          simpa [Value.ofToken?, hNumber] using hValue
        exact @Refuses.number [] tokens t hNumber hUnread
      · by_cases hName : t.kind = .identifier
        · rw [result_readAtom_path hName] at h
          exact refuses_path (map_eq_error_iff.mp h)
        · rw [result_readAtom_other hValue hNumber hName] at h
          cases h
          exact .first (by simp) (by simp)

/- Where the functions of the reader refuse. -/
theorem refuses_all :
    (∀ (level : Level) (tokens : List Token),
      ∀ refusal,
        (readLevel level tokens).result = .error refusal →
          Refuses tokens refusal) ∧
    (∀ (level : Level) (left : Expr) (tokens : List Token),
      ∀ refusal,
        (readChain level left tokens).result =
            .error refusal →
          Refuses tokens refusal) ∧
    (∀ (level : Level) (tokens : List Token),
      ∀ refusal,
        (readOperand level tokens).result = .error refusal →
          Refuses tokens refusal) ∧
    (∀ tokens : List Token,
      ∀ refusal,
        (readUnary tokens).result = .error refusal →
          Refuses tokens refusal) ∧
    (∀ (t : Token) (tokens : List Token),
      ∀ refusal,
        (readPrimary t tokens).result = .error refusal →
          Refuses (t :: tokens) refusal) := by
  apply readLevel.mutual_induct
  case case1 =>
    intro level tokens found hOperand ih refusal h
    rw [result_readLevel, hOperand] at h
    exact ih refusal (by rw [hOperand]; exact h)
  case case2 =>
    intro level tokens left middle shorter hOperand _ ihChain
      refusal h
    rw [result_readLevel, hOperand] at h
    rcases took_all.2.2.1 level tokens left middle
        (by rw [hOperand]; rfl) with ⟨taken, rfl, _⟩
    exact (ihChain refusal h).behind taken
  case case3 =>
    intro level left refusal h
    rw [result_readChain_nil] at h
    cases h
  case case4 =>
    intro level left t tokens hOwn refusal h
    rw [result_readChain_stop hOwn] at h
    cases h
  case case5 =>
    intro level left t tokens op hOwn found hOperand ih
      refusal h
    rw [result_readChain_operator hOwn, hOperand] at h
    exact
      (ih refusal (by rw [hOperand]; exact h)).behind [t]
  case case6 =>
    intro level left t tokens op hOwn right middle shorter
      hOperand _ ihChain refusal h
    rw [result_readChain_operator hOwn, hOperand] at h
    rcases took_all.2.2.1 level tokens right middle
        (by rw [hOperand]; rfl) with ⟨taken, rfl, _⟩
    exact (ihChain refusal h).behind (t :: taken)
  case case7 =>
    intro level tokens next hNext ih refusal h
    rw [result_readOperand_level hNext] at h
    exact ih refusal h
  case case8 =>
    intro level tokens hNext ih refusal h
    rw [result_readOperand_unary hNext] at h
    exact ih refusal h
  case case9 =>
    intro refusal h
    rw [result_readUnary_nil] at h
    cases h
    exact .first (by simp) (by simp)
  case case10 =>
    intro t tokens op hOp ih refusal h
    rw [result_readUnary_operator hOp] at h
    exact (ih refusal (map_eq_error_iff.mp h)).behind [t]
  case case11 =>
    intro t tokens hOp ih refusal h
    rw [result_readUnary_primary hOp] at h
    exact ih refusal h
  case case12 =>
    intro t tokens hParen found hInner ih refusal h
    rw [result_readPrimary_paren hParen, hInner] at h
    exact (ih refusal (by rw [hInner]; exact h)).behind [t]
  case case13 =>
    intro t tokens hParen inner shorter hInner _ refusal h
    rw [result_readPrimary_paren hParen, hInner] at h
    cases h
    rcases took_all.1 .or tokens inner []
        (by rw [hInner]; rfl) with ⟨taken, rfl, _⟩
    exact
      @Refuses.ahead (t :: taken) [] _ (by simp) (by simp)
  case case14 =>
    intro t tokens hParen inner close middle shorter hInner
      hClose _ refusal h
    rw [result_readPrimary_paren hParen, hInner] at h
    simp only [Outcome.result, Except.bind, closeParen,
      hClose, if_true] at h
    cases h
  case case15 =>
    intro t tokens hParen inner close middle shorter hInner
      hClose _ refusal h
    rw [result_readPrimary_paren hParen, hInner] at h
    simp only [Outcome.result, Except.bind, closeParen,
      hClose, if_false] at h
    cases h
    rcases took_all.1 .or tokens inner (close :: middle)
        (by rw [hInner]; rfl) with ⟨taken, rfl, _⟩
    exact
      @Refuses.ahead (t :: taken) (close :: middle) _
        (by simp) (by simp)
  case case16 =>
    intro t tokens hParen refusal h
    rw [result_readPrimary_atom hParen] at h
    exact refuses_readAtom h

/- Where the reading of an expression refuses. -/
theorem refuses_reading
    {tokens : List Token}
    {refusal : Refusal}
    (h : reading tokens = .error refusal) :
    Refuses tokens refusal :=
  refuses_all.1 .or tokens refusal h

theorem orderly_reading : Orderly reading where
  leaves tokens e rest h := by
    rcases reading_eq_ok_iff.mp h with ⟨taken, rfl, _⟩
    exact List.suffix_append taken rest
  refuses _ _ := refuses_reading

theorem orderly_readingAll : Orderly readingAll := by
  refine orderly_reading.bind fun _ => ?_
  refine (orderly_finish (by simp) (by simp)).bind fun _ => ?_
  exact orderly_pure _

/- Where the reading of nothing but an expression refuses. -/
theorem refuses_readingAll
    {tokens : List Token}
    {refusal : Refusal}
    (h : readingAll tokens = .error refusal) :
    Refuses tokens refusal :=
  orderly_readingAll.refuses tokens refusal h

end Expr

end Rulebook
