import Rulebook.Proofs.Expr.Refusals
import Rulebook.Proofs.Token.Spelling

/-
  Expressions over the tokens of a text.

  Key definitions include:
    * `withoutLineEnds`

  Main results:
    * `exists_withoutLineEnds`
    * `expected_of_refuses`
    * `Reader.ofTokens_withoutLineEnds`
    * `Expr.longest_of_run`
    * `Expr.reads_expressions_of_tokenize`
-/

namespace Rulebook

open Grammar

/- The tokens of a text without its line ends. -/
def withoutLineEnds (tokens : List Token) : List Token :=
  tokens.filter (·.kind != .newline)

/- Tokens that can be spelled again hold no line ends. -/
theorem withoutLineEnds_concat
    {tokens : List Token}
    {stop : Token}
    (h : ∀ t ∈ tokens, Respellable t)
    (hStop : stop.kind = .finish) :
    withoutLineEnds (tokens ++ [stop]) = tokens ++ [stop] := by
  rw [withoutLineEnds, List.filter_eq_self]
  intro t hT
  rcases List.mem_append.mp hT with hIn | hEnd
  · simpa using (h t hIn).2
  · rw [List.mem_singleton.mp hEnd, hStop]
    rfl

/- All but the last of them can be spelled again. -/
theorem exists_withoutLineEnds
    {text : String}
    {tokens : List Token}
    (h : tokenize text = .ok tokens) :
    ∃ body stop,
      withoutLineEnds tokens = body ++ [stop] ∧
        stop.kind = .finish ∧
        ∀ t ∈ body, Respellable t := by
  rcases lexemes_of_tokenize h with
    ⟨whole, stop, rfl, hStop, hWhole⟩
  refine
    ⟨withoutLineEnds whole, stop, ?_, hStop, ?_⟩
  · simp [withoutLineEnds, hStop]
  · intro t hT
    rcases List.mem_filter.mp hT with ⟨hIn, hLine⟩
    exact ⟨hWhole t hIn, by simpa using hLine⟩

/- The reader of these tokens has all but the last ahead. -/
theorem Reader.ofTokens_withoutLineEnds
    {text : String}
    {tokens : List Token}
    (h : tokenize text = .ok tokens) :
    ∃ body stop,
      withoutLineEnds tokens = body ++ [stop] ∧
        stop.kind = .finish ∧
        (∀ t ∈ body, t.kind ≠ .finish) ∧
        ofTokens (withoutLineEnds tokens) = ⟨body, stop⟩ := by
  rcases exists_withoutLineEnds h with
    ⟨body, stop, hKept, hStop, hSpelled⟩
  have hBody : ∀ t ∈ body, t.kind ≠ .finish :=
    fun t hT => (hSpelled t hT).1.ne_finish
  refine ⟨body, stop, hKept, hStop, hBody, ?_⟩
  rw [hKept]
  exact ofTokens_concat hBody hStop

/-
  Neither a number nor a path of a text is refused as such: its
  numbers can be read, and its names are not empty.
-/
theorem expected_of_refuses
    {text : String}
    {tokens ahead : List Token}
    {refusal : Refusal}
    (hText : tokenize text = .ok tokens)
    (hAhead : ∀ t ∈ ahead, t ∈ tokens)
    (h : Reading.Refuses ahead refusal) :
    refusal.expected ≠ .numberLiteral ∧
      refusal.expected ≠ .fieldPath := by
  rcases lexemes_of_tokenize hText with
    ⟨body, stop, rfl, hStop, hBody⟩
  have hLexeme :
      ∀ t ∈ ahead,
        t.kind ≠ .finish →
          Lexeme t.kind t.lexeme.toList := by
    intro t hT hKind
    rcases List.mem_append.mp (hAhead t hT) with hIn | hEnd
    · exact hBody t hIn
    · rw [List.mem_singleton.mp hEnd] at hKind
      exact absurd hStop hKind
  cases h with
  | @number before rest t hKind hUnread =>
      have hNumber := hLexeme t (by simp) (by simp [hKind])
      rw [hKind] at hNumber
      have hSome := hNumber.isSome_ofNumeral?
      rw [String.ofList_toList, hUnread] at hSome
      cases hSome
  | @path before rest hEmpty =>
      rcases hEmpty with ⟨t, hT, hKind, hLexemeEmpty⟩
      have hName := hLexeme t (by simp [hT]) (by simp [hKind])
      have hNonempty := hName.ne_nil (by simp [hKind])
      rw [hLexemeEmpty] at hNonempty
      exact absurd rfl hNonempty
  | ahead hNumber hPath => exact ⟨hNumber, hPath⟩

namespace Expr

/-
  A reader that has read an expression has taken the longest
  one that begins the tokens ahead.
-/
theorem longest_of_run
    {reader after : Reader}
    {e : Expr}
    (h : reader.run reading = (.ok e, after)) :
    ∃ taken,
      reader.ahead = taken ++ after.ahead ∧
        Derives .expression taken e ∧
        ∀ longer e',
          longer <+: reader.ahead →
            Derives .expression longer e' →
            longer.length ≤ taken.length := by
  have hRead := Reader.ahead_of_run h
  rcases reading_eq_ok_iff.mp hRead with
    ⟨taken, hAhead, hTaken, _⟩
  refine ⟨taken, hAhead, hTaken, ?_⟩
  intro longer e' hPrefix hLonger
  rw [hAhead] at hRead hPrefix
  exact length_le_of_reading hRead hPrefix hLonger

/-
  Expressions over the tokens of a text are read as the grammar
  derives them.  Of the other faults, none blames a number or a
  path as such, wherever among these tokens the reading begins.
-/
theorem reads_expressions_of_tokenize
    {text : String}
    {tokens : List Token}
    (hText : tokenize text = .ok tokens) :
    (∃ body stop,
      withoutLineEnds tokens = body ++ [stop] ∧
        stop.kind = .finish ∧
        (∀ t ∈ body, t.kind ≠ .finish) ∧
        ∀ e,
          ((Reader.ofTokens (withoutLineEnds tokens)).run
              readingAll).1 = .ok e ↔
            Derives .expression body e) ∧
    (∀ list e e',
      Derives .expression list e →
        Derives .expression list e' →
        e = e') ∧
    (∀ reader : Reader,
      (∀ t ∈ reader.ahead, t ∈ tokens) →
        ∀ error,
          (reader.run Reading.path).1 = .error error ∨
            (reader.run reading).1 = .error error ∨
            (reader.run readingAll).1 = .error error →
          error.expected ≠ .numberLiteral ∧
            error.expected ≠ .fieldPath) ∧
    (∀ (reader after : Reader) (e : Expr),
      reader.run reading = (.ok e, after) →
        ∃ taken,
          reader.ahead = taken ++ after.ahead ∧
            Derives .expression taken e ∧
            ∀ longer e',
              longer <+: reader.ahead →
                Derives .expression longer e' →
                longer.length ≤ taken.length) := by
  refine
    ⟨?_, fun _ _ _ => derives_unique, ?_,
      fun _ _ _ => longest_of_run⟩
  · rcases Reader.ofTokens_withoutLineEnds hText with
      ⟨body, stop, hKept, hStop, hBody, hReader⟩
    refine ⟨body, stop, hKept, hStop, hBody, ?_⟩
    intro e
    rw [hReader, Reader.run_ok_iff]
    simp [readingAll_eq_ok_iff]
  · intro reader hAhead error hError
    have hRefuses :
        ∃ refusal,
          Reading.Refuses reader.ahead refusal ∧
            refusal.expected = error.expected := by
      rcases hError with hPath | hReading | hAll
      · rcases Reader.refusal_of_run hPath with
          ⟨refusal, hRead, hExpected⟩
        exact
          ⟨refusal, Reading.refuses_path hRead, hExpected⟩
      · rcases Reader.refusal_of_run hReading with
          ⟨refusal, hRead, hExpected⟩
        exact ⟨refusal, refuses_reading hRead, hExpected⟩
      · rcases Reader.refusal_of_run hAll with
          ⟨refusal, hRead, hExpected⟩
        exact ⟨refusal, refuses_readingAll hRead, hExpected⟩
    rcases hRefuses with ⟨refusal, hRefuses, hExpected⟩
    rw [← hExpected]
    exact expected_of_refuses hText hAhead hRefuses

/- A sum over two lines. -/
theorem reads_sum_of_tokenize :
    ∃ tokens body stop,
      tokenize "a +\n1" = .ok tokens ∧
        withoutLineEnds tokens = body ++ [stop] ∧
        body.length = 3 ∧
        ∀ e,
          ((Reader.ofTokens (withoutLineEnds tokens)).run
              readingAll).1 = .ok e ↔
            Derives .expression body e := by
  have hText :
      tokenize "a +\n1" =
        .ok
          [⟨.identifier, "a", ⟨1, 1⟩⟩,
           ⟨.symbol .plus, "+", ⟨1, 3⟩⟩,
           ⟨.newline, "\n", ⟨1, 4⟩⟩,
           ⟨.number, "1", ⟨2, 1⟩⟩,
           ⟨.finish, "", ⟨2, 2⟩⟩] := by
    decide +kernel
  rcases (reads_expressions_of_tokenize hText).1 with
    ⟨body, stop, hKept, _, _, hReads⟩
  have hLength := congrArg List.length hKept
  rw [List.length_append] at hLength
  have hBody : body.length = 3 :=
    Nat.succ.inj hLength.symm
  exact ⟨_, body, stop, hText, hKept, hBody, hReads⟩

end Expr

end Rulebook
