import Rulebook.Proofs.Expr.Grammar
import Rulebook.Proofs.Expr.Steps
import Rulebook.Proofs.Results

/-
  The reader of expressions and the grammar agree.  A phrase
  that stands before other tokens is read exactly if the token
  behind it could not carry it on.

  Key definitions include:
    * `Grammar.Stops`
    * `Grammar.EndsApart`
    * `Expr.Took`
    * `Expr.Reads`

  Main results:
    * `Expr.took_readLevel`
    * `Expr.reads_of_derives`
    * `Expr.reading_eq_ok_iff`
    * `Expr.readingAll_eq_ok_iff`
    * `Grammar.derives_unique`
-/

namespace Rulebook

------------------------------------------------------------
-- Where A Phrase Ends
------------------------------------------------------------

namespace Grammar

/- No operator of the levels below a height comes first. -/
def Stops
    (height : Nat)
    (rest : List Token) : Prop :=
  ∀ t ∈ rest.head?,
    ∀ level : Level,
      level.height < height → level.operator? t.kind = none

/- A name at the end is not followed by a dot. -/
def EndsApart
    (taken rest : List Token) : Prop :=
  ∀ last ∈ taken.getLast?,
    last.kind = .identifier →
      ∀ t ∈ rest.head?, t.kind ≠ .symbol .dot

theorem stops_zero (rest : List Token) : Stops 0 rest := by
  intro t hT level hLevel
  omega

theorem Stops.mono
    {smaller larger : Nat}
    {rest : List Token}
    (h : Stops larger rest)
    (hLe : smaller ≤ larger) : Stops smaller rest :=
  fun t hT level hLevel =>
    h t hT level (Nat.lt_of_lt_of_le hLevel hLe)

theorem stops_nil (height : Nat) : Stops height [] := by
  intro t hT
  cases hT

theorem endsApart_nil (taken : List Token) :
    EndsApart taken [] := by
  intro last hLast hName t hT
  cases hT

/- Only the end of a phrase matters for what may follow. -/
theorem endsApart_append_iff
    {before taken rest : List Token}
    (hTaken : taken ≠ []) :
    EndsApart (before ++ taken) rest ↔
      EndsApart taken rest := by
  have hLast : taken.getLast?.isSome = true := by
    simpa using hTaken
  unfold EndsApart
  rw [List.getLast?_append, Option.or_of_isSome hLast]

/- A token that is no name may be followed by anything. -/
theorem endsApart_of_other
    {taken rest : List Token}
    {t : Token}
    (hLast : taken.getLast? = some t)
    (hKind : t.kind ≠ .identifier) :
    EndsApart taken rest := by
  intro last hMember hName
  rw [hLast] at hMember
  cases hMember
  exact absurd hName hKind

------------------------------------------------------------
-- Operators And Levels
------------------------------------------------------------

/- An operator belongs to one level. -/
theorem operator?_eq_none_of_ne
    {level other : Level}
    {kind : TokenKind}
    {op : BinaryOp}
    (h : Joins level kind op)
    (hOther : other ≠ level) :
    other.operator? kind = none := by
  cases h <;> cases other <;>
    first | rfl | exact absurd rfl hOther

/- Levels of one height are the same. -/
theorem level_eq_of_height_eq
    {level other : Level}
    (h : other.height = level.height) : other = level := by
  cases level <;> cases other <;> first | rfl | cases h

/- An operator is no dot. -/
theorem Joins.ne_dot
    {level : Level}
    {kind : TokenKind}
    {op : BinaryOp}
    (h : Joins level kind op) : kind ≠ .symbol .dot := by
  cases h <;> simp

/- Before an operator of a level all tighter levels stop. -/
theorem Joins.stops
    {level : Level}
    {sign : Token}
    {op : BinaryOp}
    {rest : List Token}
    (h : Joins level sign.kind op) :
    Stops level.height (sign :: rest) := by
  intro t hT other hHeight
  have hSign : sign = t := by
    simpa using hT
  subst hSign
  apply operator?_eq_none_of_ne h
  rintro rfl
  exact Nat.lt_irrefl _ hHeight

/- A level stops too where no operator of its own follows. -/
theorem Stops.succ
    {level : Level}
    {t : Token}
    {rest : List Token}
    (h : Stops level.height (t :: rest))
    (hOwn : level.operator? t.kind = none) :
    Stops (level.height + 1) (t :: rest) := by
  intro first hFirst other hHeight
  have hSame : t = first := by
    simpa using hFirst
  subst hSame
  by_cases hOther : other.height = level.height
  · rw [level_eq_of_height_eq hOther]
    exact hOwn
  · exact h t rfl other (by omega)

------------------------------------------------------------
-- Literals And Names
------------------------------------------------------------

/- No literal is an operator before an operand. -/
theorem Denotes.ofKind?_eq_none
    {t : Token}
    {value : Value}
    (h : Denotes t value) :
    UnaryOp.ofKind? t.kind = none := by
  cases h <;> simp [UnaryOp.ofKind?, *]

/- No literal is an opening parenthesis. -/
theorem Denotes.ne_leftParen
    {t : Token}
    {value : Value}
    (h : Denotes t value) :
    t.kind ≠ .symbol .leftParen := by
  cases h <;> simp [*]

/- The last token of a path is a name. -/
theorem Names.exists_last
    {first : Token}
    {tokens : List Token}
    {names : List String}
    (h : Names tokens names)
    (hFirst : first.kind = .identifier) :
    ∃ last,
      (first :: tokens).getLast? = some last ∧
        last.kind = .identifier := by
  induction h generalizing first with
  | none => exact ⟨first, rfl, hFirst⟩
  | @more dot name tokens names hDot hName hMore ih =>
      rcases ih hName with ⟨last, hLast, hKind⟩
      exact ⟨last, by simpa using hLast, hKind⟩

end Grammar

------------------------------------------------------------
-- Soundness
------------------------------------------------------------

namespace Expr

open Grammar

/- Below which height a phrase leaves no operator behind. -/
def bound : Phrase → Nat
  | .level level => level.height + 1
  | .unary => 0
  | .primary => 0

/-
  A phrase was taken from the front of the tokens, and what is
  left does not carry it on.
-/
def Took
    (phrase : Phrase)
    (tokens : List Token)
    (e : Expr)
    (rest : List Token) : Prop :=
  ∃ taken,
    tokens = taken ++ rest ∧
      Derives phrase taken e ∧
      EndsApart taken rest ∧
      Stops (bound phrase) rest

/- The operands of a level stop below the level itself. -/
theorem bound_operand (level : Level) :
    bound (.operand level) = level.height := by
  cases level <;> rfl

/- A literal or a path is taken as the grammar derives it. -/
theorem took_readAtom
    {t : Token}
    {tokens rest : List Token}
    {e : Expr}
    (h : (readAtom t tokens).result = .ok (e, rest)) :
    Took .primary (t :: tokens) e rest := by
  cases hValue : Value.ofToken? t with
  | some value =>
      rw [result_readAtom_literal hValue] at h
      cases h
      have hName : t.kind ≠ .identifier := by
        intro hKind
        simp [Value.ofToken?, hKind] at hValue
      exact
        ⟨[t], rfl, .literal (denotes_iff.mpr hValue),
          endsApart_of_other rfl hName, stops_zero _⟩
  | none =>
      by_cases hNumber : t.kind = .number
      · rw [result_readAtom_number hNumber hValue] at h
        cases h
      · by_cases hName : t.kind = .identifier
        · rw [result_readAtom_path hName] at h
          rcases map_eq_ok_iff.mp h with
            ⟨⟨p, rest'⟩, hPath, hEq⟩
          cases hEq
          rcases Reading.path_eq_ok_iff.mp hPath with
            ⟨first, taken, names, hTokens, hFirst, hNames,
              hSegments, hRest⟩
          exact
            ⟨first :: taken, hTokens,
              .path hFirst hNames hSegments,
              fun _ _ _ => hRest, stops_zero _⟩
        · rw [result_readAtom_other hValue hNumber hName] at h
          cases h

/-
  Whatever the functions of the reader take is what the grammar
  derives.  A chain of operations extends the phrase that was
  taken before it.
-/
theorem took_all :
    (∀ (level : Level) (tokens : List Token),
      ∀ e rest,
        (readLevel level tokens).result = .ok (e, rest) →
          Took (.level level) tokens e rest) ∧
    (∀ (level : Level) (left : Expr) (tokens : List Token),
      ∀ before e rest,
        Derives (.level level) before left →
        EndsApart before tokens →
        Stops level.height tokens →
        (readChain level left tokens).result =
            .ok (e, rest) →
          Took (.level level) (before ++ tokens) e rest) ∧
    (∀ (level : Level) (tokens : List Token),
      ∀ e rest,
        (readOperand level tokens).result = .ok (e, rest) →
          Took (.operand level) tokens e rest) ∧
    (∀ tokens : List Token,
      ∀ e rest,
        (readUnary tokens).result = .ok (e, rest) →
          Took .unary tokens e rest) ∧
    (∀ (t : Token) (tokens : List Token),
      ∀ e rest,
        (readPrimary t tokens).result = .ok (e, rest) →
          Took .primary (t :: tokens) e rest) := by
  apply readLevel.mutual_induct
  case case1 =>
    intro level tokens refusal hOperand _ e rest h
    rw [result_readLevel, hOperand] at h
    cases h
  case case2 =>
    intro level tokens left middle shorter hOperand ihOperand
      ihChain e rest h
    rw [result_readLevel, hOperand] at h
    rcases ihOperand left middle (by rw [hOperand]; rfl) with
      ⟨taken, rfl, hTaken, hApart, hStops⟩
    rw [bound_operand] at hStops
    exact ihChain taken e rest (.operand hTaken) hApart hStops h
  case case3 =>
    intro level left before e rest hBefore _ _ h
    rw [result_readChain_nil] at h
    cases h
    exact
      ⟨before, rfl, hBefore, endsApart_nil _, stops_nil _⟩
  case case4 =>
    intro level left t tokens hOwn before e rest hBefore
      hApart hStops h
    rw [result_readChain_stop hOwn] at h
    cases h
    exact ⟨before, rfl, hBefore, hApart, hStops.succ hOwn⟩
  case case5 =>
    intro level left t tokens op hOwn refusal hOperand _
      before e rest _ _ _ h
    rw [result_readChain_operator hOwn, hOperand] at h
    cases h
  case case6 =>
    intro level left t tokens op hOwn right middle shorter
      hOperand ihOperand ihChain before e rest hBefore _ _ h
    rw [result_readChain_operator hOwn, hOperand] at h
    rcases ihOperand right middle (by rw [hOperand]; rfl) with
      ⟨taken, rfl, hTaken, hApart, hStops⟩
    rw [bound_operand] at hStops
    have hWhole :
        Derives (.level level) (before ++ t :: taken)
          (.binary op left right) :=
      .operation hBefore (joins_iff.mpr hOwn) hTaken
    have hWholeApart :
        EndsApart (before ++ t :: taken) middle := by
      rw [List.append_cons]
      exact
        (endsApart_append_iff hTaken.ne_nil).mpr hApart
    have hChain :=
      ihChain (before ++ t :: taken) e rest hWhole
        hWholeApart hStops h
    simpa using hChain
  case case7 =>
    intro level tokens next hNext ih e rest h
    rw [result_readOperand_level hNext] at h
    rw [operand_of_tighter hNext]
    exact ih e rest h
  case case8 =>
    intro level tokens hNext ih e rest h
    rw [result_readOperand_unary hNext] at h
    rw [operand_of_tightest hNext]
    exact ih e rest h
  case case9 =>
    intro e rest h
    rw [result_readUnary_nil] at h
    cases h
  case case10 =>
    intro t tokens op hOp ih e rest h
    rw [result_readUnary_operator hOp] at h
    rcases map_eq_ok_iff.mp h with
      ⟨⟨inner, rest'⟩, hRun, hEq⟩
    cases hEq
    rcases ih inner rest' hRun with
      ⟨taken, rfl, hTaken, hApart, hStops⟩
    refine
      ⟨t :: taken, rfl,
        .prefixed (precedes_iff.mpr hOp) hTaken, ?_, hStops⟩
    rw [← List.singleton_append]
    exact (endsApart_append_iff hTaken.ne_nil).mpr hApart
  case case11 =>
    intro t tokens hOp ih e rest h
    rw [result_readUnary_primary hOp] at h
    rcases ih e rest h with
      ⟨taken, hTokens, hTaken, hApart, hStops⟩
    exact ⟨taken, hTokens, .primary hTaken, hApart, hStops⟩
  case case12 =>
    intro t tokens hParen refusal hInner _ e rest h
    rw [result_readPrimary_paren hParen, hInner] at h
    cases h
  case case13 =>
    intro t tokens hParen inner shorter hInner _ e rest h
    rw [result_readPrimary_paren hParen, hInner] at h
    cases h
  case case14 =>
    intro t tokens hParen inner close middle shorter hInner
      hClose ih e rest h
    rw [result_readPrimary_paren hParen, hInner] at h
    simp only [Outcome.result, Except.bind, closeParen,
      hClose, if_true] at h
    cases h
    rcases ih inner (close :: middle) (by rw [hInner]; rfl)
      with ⟨taken, rfl, hTaken, _, _⟩
    have hLast :
        (t :: taken ++ [close]).getLast? = some close :=
      List.getLast?_concat
    exact
      ⟨t :: taken ++ [close], by simp,
        .parens hParen hTaken hClose,
        endsApart_of_other hLast (by simp [hClose]),
        stops_zero _⟩
  case case15 =>
    intro t tokens hParen inner close middle shorter hInner
      hClose _ e rest h
    rw [result_readPrimary_paren hParen, hInner] at h
    simp only [Outcome.result, Except.bind, closeParen,
      hClose, if_false] at h
    cases h
  case case16 =>
    intro t tokens hParen e rest h
    rw [result_readPrimary_atom hParen] at h
    exact took_readAtom h

------------------------------------------------------------
-- Completeness
------------------------------------------------------------

/- Below which height no operator may follow a phrase. -/
def height : Phrase → Nat
  | .level level => level.height
  | .unary => 0
  | .primary => 0

/-
  On the tokens of a phrase, with others behind them, the
  reader comes to the point behind the phrase.  For a level
  this is where it looks for further operators of the level.
-/
def Reads
    (phrase : Phrase)
    (tokens : List Token)
    (e : Expr)
    (rest : List Token) : Prop :=
  match phrase with
  | .level level =>
      (readLevel level tokens).result =
        (readChain level e rest).result
  | .unary => (readUnary tokens).result = .ok (e, rest)
  | .primary =>
      ∃ t others,
        tokens = t :: others ∧
          UnaryOp.ofKind? t.kind = none ∧
          (readPrimary t others).result = .ok (e, rest)

/- A chain ends where no operator of its level follows. -/
theorem readChain_of_stops
    {level : Level}
    {e : Expr}
    {rest : List Token}
    (h : Stops (level.height + 1) rest) :
    (readChain level e rest).result = .ok (e, rest) := by
  cases rest with
  | nil => exact result_readChain_nil
  | cons t rest =>
      have hOwn : level.operator? t.kind = none :=
        h t rfl level (Nat.lt_succ_self _)
      exact result_readChain_stop hOwn

/- An operand is read where its level stops. -/
theorem readOperand_of_reads
    {level : Level}
    {tokens rest : List Token}
    {e : Expr}
    (h : Reads (.operand level) tokens e rest)
    (hStops : Stops level.height rest) :
    (readOperand level tokens).result = .ok (e, rest) := by
  cases hNext : level.tighter? with
  | none =>
      rw [operand_of_tightest hNext] at h
      rw [result_readOperand_unary hNext]
      exact h
  | some next =>
      have hTighter : next.height + 1 ≤ level.height :=
        Level.height_tighter hNext
      rw [operand_of_tighter hNext] at h
      rw [result_readOperand_level hNext]
      exact h.trans (readChain_of_stops (hStops.mono hTighter))

/- Operands are no higher than their level. -/
theorem height_operand_le (level : Level) :
    height (.operand level) ≤ level.height := by
  cases level <;> decide

/- What the grammar derives is read. -/
theorem reads_of_derives
    {phrase : Phrase}
    {tokens : List Token}
    {e : Expr}
    (h : Derives phrase tokens e) :
    ∀ rest,
      EndsApart tokens rest →
      Stops (height phrase) rest →
        Reads phrase (tokens ++ rest) e rest := by
  induction h with
  | @operand level tokens e hOperand ih =>
      intro rest hApart hStops
      have hReads :=
        ih rest hApart (hStops.mono (height_operand_le level))
      have hRead := readOperand_of_reads hReads hStops
      simp only [Reads]
      rw [result_readLevel, hRead]
      rfl
  | @operation level left right sign op a b hLeft hSign
      hRight ihLeft ihRight =>
      intro rest hApart hStops
      have hRightApart : EndsApart right rest := by
        rw [List.append_cons] at hApart
        exact (endsApart_append_iff hRight.ne_nil).mp hApart
      have hRightReads :=
        ihRight rest hRightApart
          (hStops.mono (height_operand_le level))
      have hRead := readOperand_of_reads hRightReads hStops
      have hLeftApart :
          EndsApart left (sign :: (right ++ rest)) := by
        intro last _ _ t hT
        cases hT
        exact hSign.ne_dot
      have hLeftReads :=
        ihLeft (sign :: (right ++ rest)) hLeftApart
          hSign.stops
      simp only [Reads] at hLeftReads ⊢
      rw [List.append_assoc, List.cons_append, hLeftReads,
        result_readChain_operator (joins_iff.mp hSign), hRead]
      rfl
  | @prefixed sign tokens op e hSign hOperand ih =>
      intro rest hApart hStops
      have hInner : EndsApart tokens rest := by
        rw [← List.singleton_append] at hApart
        exact (endsApart_append_iff hOperand.ne_nil).mp hApart
      have hRead := ih rest hInner hStops
      simp only [Reads] at hRead ⊢
      rw [List.cons_append,
        result_readUnary_operator (precedes_iff.mp hSign),
        hRead]
      rfl
  | primary hPrimary ih =>
      intro rest hApart hStops
      rcases ih rest hApart hStops with
        ⟨t, others, hTokens, hNoSign, hRead⟩
      simp only [Reads]
      rw [hTokens, result_readUnary_primary hNoSign]
      exact hRead
  | @literal t value hValue =>
      intro rest _ _
      refine ⟨t, rest, rfl, hValue.ofKind?_eq_none, ?_⟩
      rw [result_readPrimary_atom hValue.ne_leftParen,
        result_readAtom_literal (denotes_iff.mp hValue)]
  | @parens left right tokens e hLeft hInner hRight ih =>
      intro rest _ _
      have hApart : EndsApart tokens (right :: rest) := by
        intro last _ _ t hT
        cases hT
        simp [hRight]
      have hClosed :
          Stops (Level.or.height + 1) (right :: rest) := by
        intro t hT level _
        cases hT
        rw [hRight]
        cases level <;> rfl
      have hReads :=
        ih (right :: rest) hApart
          (hClosed.mono (Nat.le_succ _))
      have hRead :
          (readLevel .or (tokens ++ right :: rest)).result =
            .ok (e, right :: rest) :=
        hReads.trans (readChain_of_stops hClosed)
      refine
        ⟨left, tokens ++ right :: rest, by simp, ?_, ?_⟩
      · simp [hLeft, UnaryOp.ofKind?]
      · rw [result_readPrimary_paren hLeft, hRead]
        simp [Except.bind, closeParen, hRight]
  | @path first tokens names p hFirst hNames hPath =>
      intro rest hApart _
      rcases hNames.exists_last hFirst with
        ⟨last, hLast, hName⟩
      have hRest := hApart last hLast hName
      have hParen : first.kind ≠ .symbol .leftParen := by
        simp [hFirst]
      have hRead :
          Reading.path (first :: (tokens ++ rest)) =
            .ok (p, rest) :=
        Reading.path_eq_ok_iff.mpr
          ⟨first, tokens, names, rfl, hFirst, hNames, hPath,
            hRest⟩
      refine ⟨first, tokens ++ rest, rfl, ?_, ?_⟩
      · simp [hFirst, UnaryOp.ofKind?]
      · rw [result_readPrimary_atom hParen,
          result_readAtom_path hFirst, hRead]
        rfl

------------------------------------------------------------
-- Expressions
------------------------------------------------------------

/-
  An expression is read from the front of the tokens exactly if
  the grammar derives it from them, and neither an operator nor
  a dot behind its last name goes on with it.
-/
theorem reading_eq_ok_iff
    {tokens rest : List Token}
    {e : Expr} :
    reading tokens = .ok (e, rest) ↔
      ∃ taken,
        tokens = taken ++ rest ∧
          Derives .expression taken e ∧
          EndsApart taken rest ∧
          Stops (Level.or.height + 1) rest := by
  constructor
  · exact took_all.1 .or tokens e rest
  · rintro ⟨taken, rfl, hTaken, hApart, hStops⟩
    have hReads :=
      reads_of_derives hTaken rest hApart
        (hStops.mono (Nat.le_succ _))
    exact hReads.trans (readChain_of_stops hStops)

/-
  What is taken is the longest expression at the front of the
  tokens: a longer one would go on with the token behind it.
-/
theorem length_le_of_reading
    {taken rest longer : List Token}
    {e e' : Expr}
    (hRead : reading (taken ++ rest) = .ok (e, rest))
    (hPrefix : longer <+: taken ++ rest)
    (hLonger : Derives .expression longer e') :
    longer.length ≤ taken.length := by
  rcases reading_eq_ok_iff.mp hRead with
    ⟨found, hFound, hTaken, hApart, hStops⟩
  have hSame : taken = found := List.append_cancel_right hFound
  subst hSame
  apply Nat.le_of_not_lt
  intro hLength
  have hTakenPrefix : taken <+: longer :=
    List.prefix_of_prefix_length_le
      (List.prefix_append taken rest) hPrefix (by omega)
  rcases hTakenPrefix with ⟨more, rfl⟩
  have hMore : more <+: rest :=
    (List.prefix_append_right_inj taken).mp hPrefix
  cases more with
  | nil => simp at hLength
  | cons t more =>
      rcases hMore with ⟨tail, rfl⟩
      have hShort :
          reading (taken ++ t :: more) = .ok (e, t :: more) :=
        reading_eq_ok_iff.mpr
          ⟨taken, rfl, hTaken, hApart, hStops⟩
      have hWhole :
          reading (taken ++ t :: more) = .ok (e', []) :=
        reading_eq_ok_iff.mpr
          ⟨taken ++ t :: more, by simp, hLonger,
            endsApart_nil _, stops_nil _⟩
      rw [hShort] at hWhole
      cases hWhole

/- All tokens are read if they are one expression. -/
theorem readingAll_eq_ok_iff
    {tokens rest : List Token}
    {e : Expr} :
    readingAll tokens = .ok (e, rest) ↔
      rest = [] ∧ Derives .expression tokens e := by
  simp only [readingAll, Reading.bind_eq_ok_iff,
    Reading.finish_eq_ok_iff, Reading.pure_eq_ok_iff,
    reading_eq_ok_iff]
  constructor
  · rintro ⟨found, middle, ⟨taken, rfl, hTaken, _⟩, _, _,
      ⟨rfl, rfl⟩, rfl, rfl⟩
    exact ⟨rfl, by simpa using hTaken⟩
  · rintro ⟨rfl, hTokens⟩
    exact
      ⟨e, [], ⟨tokens, by simp, hTokens, endsApart_nil _,
        stops_nil _⟩, (), [], ⟨rfl, rfl⟩, rfl, rfl⟩

end Expr

/- The grammar gives a run of tokens at most one expression. -/
theorem Grammar.derives_unique
    {tokens : List Token}
    {e e' : Expr}
    (h : Derives .expression tokens e)
    (h' : Derives .expression tokens e') : e = e' := by
  have hRead :=
    Expr.readingAll_eq_ok_iff.mpr ⟨rfl, h⟩
  have hRead' :=
    Expr.readingAll_eq_ok_iff.mpr ⟨rfl, h'⟩
  rw [hRead] at hRead'
  cases hRead'
  rfl

end Rulebook
