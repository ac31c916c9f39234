import Rulebook.Proofs.Expr.Places
import Rulebook.Proofs.Foresight
import Rulebook.Proofs.Given.Faults

/-
  The errors of expressions are about the first token that no
  expression can have where it stands.  Tokens that were taken
  for a phrase are taken for it again before any rest with the
  same token ahead, and what is missing in a phrase that broke
  off can be added to it.

  Key definitions include:
    * `Expr.IsPhrase`
    * `Expr.Breaks`
    * `Reader.HoldsExpression`

  Main results:
    * `Expr.readOperand_again`
    * `Expr.breaks_all`
    * `Expr.timely_readingAll`
    * `Reader.errors_of_expression_first_impossible`
-/

namespace Rulebook

open Grammar

------------------------------------------------------------
-- The Same Token Ahead
------------------------------------------------------------

namespace Grammar

theorem Stops.of_head?
    {height : Nat}
    {rest rest' : List Token}
    (h : Stops height rest)
    (hSame : rest'.head? = rest.head?) :
    Stops height rest' := by
  unfold Stops
  rw [hSame]
  exact h

theorem EndsApart.of_head?
    {taken rest rest' : List Token}
    (h : EndsApart taken rest)
    (hSame : rest'.head? = rest.head?) :
    EndsApart taken rest' := by
  unfold EndsApart
  rw [hSame]
  exact h

end Grammar

namespace Expr

/- An operand is taken again if the same token is ahead. -/
theorem readOperand_again
    {level : Level}
    {tokens rest : List Token}
    {e : Expr}
    (h : (readOperand level tokens).result = .ok (e, rest)) :
    ∃ taken,
      tokens = taken ++ rest ∧
        Derives (.operand level) taken e ∧
        ∀ rest', rest'.head? = rest.head? →
          (readOperand level (taken ++ rest')).result =
            .ok (e, rest') := by
  rcases took_all.2.2.1 level tokens e rest h with
    ⟨taken, rfl, hTaken, hApart, hStops⟩
  rw [bound_operand] at hStops
  refine ⟨taken, rfl, hTaken, ?_⟩
  intro rest' hSame
  have hStops' := hStops.of_head? hSame
  exact
    readOperand_of_reads
      (reads_of_derives hTaken rest' (hApart.of_head? hSame)
        (hStops'.mono (height_operand_le level)))
      hStops'

/- So is an expression. -/
theorem reading_again
    {tokens rest : List Token}
    {e : Expr}
    (h : reading tokens = .ok (e, rest)) :
    ∃ taken,
      tokens = taken ++ rest ∧
        Derives .expression taken e ∧
        ∀ rest', rest'.head? = rest.head? →
          reading (taken ++ rest') = .ok (e, rest') := by
  rcases reading_eq_ok_iff.mp h with
    ⟨taken, rfl, hTaken, hApart, hStops⟩
  refine ⟨taken, rfl, hTaken, ?_⟩
  intro rest' hSame
  exact
    reading_eq_ok_iff.mpr
      ⟨taken, rfl, hTaken, hApart.of_head? hSame,
        hStops.of_head? hSame⟩

------------------------------------------------------------
-- What Is Missing
------------------------------------------------------------

/- A token that is a whole expression. -/
def nullWord : Token :=
  ⟨.keyword .null, "null", .start⟩

theorem derives_nullWord :
    Derives .unary [nullWord] (.literal .null) :=
  .primary (.literal (.null rfl))

/- A closing parenthesis. -/
def closingParen : Token :=
  ⟨.symbol .rightParen, ")", .start⟩

/- A name that can follow a dot. -/
def fieldName : Token :=
  ⟨.identifier, "x", .start⟩

------------------------------------------------------------
-- Phrases That Break Off
------------------------------------------------------------

/- The grammar derives the tokens. -/
def IsPhrase
    (phrase : Phrase)
    (tokens : List Token) : Prop :=
  ∃ e, Derives phrase tokens e

/- The functions of the reader as readings. -/
def levelReading (level : Level) : Reading Expr :=
  fun tokens => (readLevel level tokens).result

def operandReading (level : Level) : Reading Expr :=
  fun tokens => (readOperand level tokens).result

def chainReading
    (level : Level)
    (left : Expr) : Reading Expr :=
  fun tokens => (readChain level left tokens).result

def unaryReading : Reading Expr :=
  fun tokens => (readUnary tokens).result

/-
  A reading breaks off behind some tokens.  It does so before
  any rest with the same token ahead, but something else can
  come there, so that the whole is what it should be.
-/
structure Breaks
    (run : Reading Expr)
    (whole : List Token → Prop)
    (taken : List Token)
    (refusal : Refusal) : Prop where
  found : refusal.found = refusal.rest.head?
  again :
    ∀ rest, rest.head? = refusal.rest.head? →
      ∃ other, run (taken ++ rest) = .error other
  possible : ∃ more, Unended more ∧ whole (taken ++ more)

/- A reading of the tokens breaks off in them. -/
def BreaksOff
    (run : Reading Expr)
    (whole : List Token → Prop)
    (tokens : List Token)
    (refusal : Refusal) : Prop :=
  ∃ taken,
    tokens = taken ++ refusal.rest ∧
      Breaks run whole taken refusal

section

variable {run run' : Reading Expr}
variable {whole whole' : List Token → Prop}
variable {front tokens : List Token}
variable {refusal : Refusal}

/-
  Where another reading only goes on to this one, it breaks off
  where this one does.
-/
theorem BreaksOff.prepend
    (h : BreaksOff run whole tokens refusal)
    (hRun :
      ∀ list other,
        list.head? = tokens.head? →
          run list = .error other →
          run' (front ++ list) = .error other)
    (hWhole : ∀ list, whole list → whole' (front ++ list)) :
    BreaksOff run' whole' (front ++ tokens) refusal := by
  rcases h with ⟨taken, rfl, hBreaks⟩
  refine
    ⟨front ++ taken, (List.append_assoc _ _ _).symm,
      hBreaks.found, ?_, ?_⟩
  · intro rest hRest
    rcases hBreaks.again rest hRest with ⟨other, hOther⟩
    refine ⟨other, ?_⟩
    rw [List.append_assoc]
    exact
      hRun _ other (Reading.head?_append_of_head? hRest) hOther
  · rcases hBreaks.possible with ⟨more, hMore, hList⟩
    refine ⟨more, hMore, ?_⟩
    rw [List.append_assoc]
    exact hWhole _ hList

end

------------------------------------------------------------
-- Operands
------------------------------------------------------------

/- The tokens have the lexemes of their kinds. -/
def Lexed (tokens : List Token) : Prop :=
  ∀ t ∈ tokens, Lexeme t.kind t.lexeme.toList

variable {t : Token}
variable {tokens : List Token}
variable {refusal : Refusal}

/- An operand is missed where none can begin. -/
theorem breaksOff_first
    (h :
      ∀ list, list.head? = tokens.head? →
        unaryReading list =
          .error (.ahead .expression list)) :
    BreaksOff unaryReading (IsPhrase .unary) tokens
      (.ahead .expression tokens) := by
  refine ⟨[], rfl, rfl, ?_, ?_⟩
  · exact fun rest hRest => ⟨_, h rest hRest⟩
  · exact
      ⟨[nullWord], by simp [Unended, nullWord], _,
        derives_nullWord⟩

/- Where a name begins, a path is read. -/
theorem unaryReading_path
    (hName : t.kind = .identifier) :
    unaryReading (t :: tokens) =
      (Reading.path (t :: tokens)).map fun r =>
        (.path r.1, r.2) := by
  have hOp : UnaryOp.ofKind? t.kind = none := by
    simp [hName, UnaryOp.ofKind?]
  have hParen : t.kind ≠ .symbol .leftParen := by
    simp [hName]
  rw [unaryReading, result_readUnary_primary hOp,
    result_readPrimary_atom hParen,
    result_readAtom_path hName]

/- A path that ends with a dot is refused. -/
theorem path_append_dot
    {first dot : Token}
    {more rest : List Token}
    {names : List String}
    (hFirst : first.kind = .identifier)
    (hMore : Names more names)
    (hDot : dot.kind = .symbol .dot)
    (hRest : ∀ u ∈ rest.head?, u.kind ≠ .identifier) :
    Reading.path (first :: (more ++ dot :: rest)) =
      .error (.ahead .fieldNameAfterDot rest) := by
  apply Reading.bind_eq_error_iff.mpr
  refine
    .inr
      ⟨first, _, Reading.expect_eq_ok_iff.mpr ⟨rfl, hFirst⟩,
        ?_⟩
  apply Reading.bind_eq_error_iff.mpr
  exact .inl (Reading.names_append_dot hMore hDot hRest)

/- A path that ends with a dot can go on with a name. -/
theorem isPhrase_path_dot
    {first dot : Token}
    {more : List Token}
    {names : List String}
    (hNames :
      ∀ u ∈ first :: more,
        u.kind = .identifier → u.lexeme ≠ "")
    (hFirst : first.kind = .identifier)
    (hMore : Names more names)
    (hDot : dot.kind = .symbol .dot) :
    IsPhrase .unary (first :: (more ++ [dot, fieldName])) := by
  have hAll :
      ∀ u ∈ first :: (more ++ [dot, fieldName]),
        u.kind = .identifier → u.lexeme ≠ "" := by
    rw [← List.cons_append, List.forall_mem_append]
    exact ⟨hNames, by simp [hDot, fieldName]⟩
  have hLonger :
      Names (more ++ [dot, fieldName])
        (names ++ [fieldName.lexeme]) :=
    hMore.concat hDot rfl
  rcases Reading.exists_path hAll hFirst hLonger with
    ⟨p, hSegments⟩
  exact ⟨_, .primary (.path hFirst hLonger hSegments)⟩

/- A path breaks off behind a dot. -/
theorem breaksOff_path
    (hTokens : Lexed (t :: tokens))
    (hName : t.kind = .identifier)
    (h : Reading.path (t :: tokens) = .error refusal) :
    BreaksOff unaryReading (IsPhrase .unary) (t :: tokens)
      refusal := by
  have hNames :
      ∀ u ∈ t :: tokens,
        u.kind = .identifier → u.lexeme ≠ "" :=
    fun u hU => lexeme_ne_empty (hTokens u hU)
  rcases (Reading.path_eq_error_iff hNames).mp h with
    ⟨rfl, hOther⟩ |
    ⟨first, more, names, dot, rest, hSplit, hFirst, hMore,
      hDot, hRest, rfl⟩
  · exact absurd hName (hOther t rfl)
  · rw [hSplit] at hNames ⊢
    refine
      ⟨first :: (more ++ [dot]), by simp [Refusal.ahead], rfl,
        ?_, ?_⟩
    · intro rest' hSame
      refine ⟨.ahead .fieldNameAfterDot rest', ?_⟩
      rw [List.cons_append, List.append_assoc,
        List.singleton_append, unaryReading_path hFirst]
      apply map_eq_error_iff.mpr
      apply path_append_dot hFirst hMore hDot
      rwa [hSame]
    · refine ⟨[fieldName], by simp [Unended, fieldName], ?_⟩
      rw [List.cons_append, List.append_assoc]
      exact
        isPhrase_path_dot (List.forall_mem_append.mp hNames).1
          hFirst hMore hDot

/- A literal or a path breaks off at its first token. -/
theorem breaksOff_readAtom
    (hTokens : Lexed (t :: tokens))
    (hOp : UnaryOp.ofKind? t.kind = none)
    (hParen : t.kind ≠ .symbol .leftParen)
    (h : (readAtom t tokens).result = .error refusal) :
    BreaksOff unaryReading (IsPhrase .unary) (t :: tokens)
      refusal := by
  cases hValue : Value.ofToken? t with
  | some value =>
      rw [result_readAtom_literal hValue] at h
      cases h
  | none =>
      by_cases hNumber : t.kind = .number
      · have hLexeme := hTokens t (by simp)
        rw [hNumber] at hLexeme
        have hSome := hLexeme.isSome_ofNumeral?
        have hNone : Number.ofNumeral? t.lexeme = none := by
          simpa [Value.ofToken?, hNumber] using hValue
        rw [String.ofList_toList, hNone] at hSome
        cases hSome
      · by_cases hName : t.kind = .identifier
        · rw [result_readAtom_path hName] at h
          exact
            breaksOff_path hTokens hName (map_eq_error_iff.mp h)
        · rw [result_readAtom_other hValue hNumber hName] at h
          cases h
          apply breaksOff_first
          intro list hList
          cases list with
          | nil => cases hList
          | cons u list =>
              cases hList
              rw [unaryReading, result_readUnary_primary hOp,
                result_readPrimary_atom hParen,
                result_readAtom_other hValue hNumber hName]

------------------------------------------------------------
-- Parentheses
------------------------------------------------------------

/- Where a parenthesis opens, an expression is read behind it. -/
theorem unaryReading_paren
    (hParen : t.kind = .symbol .leftParen) :
    unaryReading (t :: tokens) =
      (reading tokens).bind closeParen := by
  have hOp : UnaryOp.ofKind? t.kind = none := by
    simp [hParen, UnaryOp.ofKind?]
  rw [unaryReading, result_readUnary_primary hOp,
    result_readPrimary_paren hParen]
  rfl

/- Only a closing parenthesis closes. -/
theorem closeParen_eq_error_iff
    {e : Expr}
    {rest : List Token} :
    closeParen (e, rest) = .error refusal ↔
      refusal = .ahead .closingParen rest ∧
        ∀ u ∈ rest.head?, u.kind ≠ .symbol .rightParen := by
  cases rest with
  | nil => simp [closeParen, eq_comm]
  | cons u rest =>
      by_cases hClose : u.kind = .symbol .rightParen
      · simp [closeParen, hClose]
      · simp [closeParen, hClose, eq_comm]

/- An expression in parentheses is an operand. -/
theorem isPhrase_parens
    (hParen : t.kind = .symbol .leftParen)
    (h : IsPhrase .expression tokens) :
    IsPhrase .unary (t :: (tokens ++ [closingParen])) := by
  rcases h with ⟨e, hInner⟩
  exact ⟨e, .primary (.parens hParen hInner rfl)⟩

/-
  Parentheses break off where the expression in them does, or
  where it is not followed by the closing one.
-/
theorem breaksOff_parens
    (hParen : t.kind = .symbol .leftParen)
    (hInner :
      ∀ found, reading tokens = .error found →
        BreaksOff reading (IsPhrase .expression) tokens found)
    (h : unaryReading (t :: tokens) = .error refusal) :
    BreaksOff unaryReading (IsPhrase .unary) (t :: tokens)
      refusal := by
  rw [unaryReading_paren hParen] at h
  rcases bindResult_eq_error_iff.mp h with
    hRefused | ⟨⟨e, rest⟩, hRead, hOpen⟩
  · rcases hInner refusal hRefused with ⟨taken, rfl, hBreaks⟩
    refine ⟨t :: taken, rfl, hBreaks.found, ?_, ?_⟩
    · intro rest hRest
      rcases hBreaks.again rest hRest with ⟨other, hOther⟩
      refine ⟨other, ?_⟩
      rw [List.cons_append, unaryReading_paren hParen, hOther]
      rfl
    · rcases hBreaks.possible with ⟨more, hMore, hPhrase⟩
      refine
        ⟨more ++ [closingParen],
          hMore.append (by simp [Unended, closingParen]), ?_⟩
      rw [List.cons_append, ← List.append_assoc]
      exact isPhrase_parens hParen hPhrase
  · rcases reading_again hRead with
      ⟨taken, rfl, hTaken, hAgain⟩
    rcases closeParen_eq_error_iff.mp hOpen with ⟨rfl, hClose⟩
    refine ⟨t :: taken, rfl, rfl, ?_, ?_⟩
    · intro rest' hSame
      refine ⟨.ahead .closingParen rest', ?_⟩
      rw [List.cons_append, unaryReading_paren hParen,
        hAgain rest' hSame]
      apply closeParen_eq_error_iff.mpr
      rw [hSame]
      exact ⟨rfl, hClose⟩
    · exact
        ⟨[closingParen], by simp [Unended, closingParen],
          isPhrase_parens hParen ⟨e, hTaken⟩⟩

------------------------------------------------------------
-- Levels
------------------------------------------------------------

/-
  Where the functions of the reader break off.  A chain breaks
  off behind the phrase that was taken before it.
-/
theorem breaks_all :
    (∀ (level : Level) (tokens : List Token),
      Lexed tokens →
        ∀ refusal,
          levelReading level tokens = .error refusal →
            BreaksOff (levelReading level)
              (IsPhrase (.level level)) tokens refusal) ∧
    (∀ (level : Level) (left : Expr) (tokens : List Token),
      Lexed tokens →
        ∀ before refusal,
          Derives (.level level) before left →
            chainReading level left tokens = .error refusal →
              BreaksOff (chainReading level left)
                (fun list =>
                  IsPhrase (.level level) (before ++ list))
                tokens refusal) ∧
    (∀ (level : Level) (tokens : List Token),
      Lexed tokens →
        ∀ refusal,
          operandReading level tokens = .error refusal →
            BreaksOff (operandReading level)
              (IsPhrase (.operand level)) tokens refusal) ∧
    (∀ tokens : List Token,
      Lexed tokens →
        ∀ refusal,
          unaryReading tokens = .error refusal →
            BreaksOff unaryReading (IsPhrase .unary) tokens
              refusal) ∧
    (∀ (t : Token) (tokens : List Token),
      Lexed (t :: tokens) →
        UnaryOp.ofKind? t.kind = none →
          ∀ refusal,
            (readPrimary t tokens).result = .error refusal →
              BreaksOff unaryReading (IsPhrase .unary)
                (t :: tokens) refusal) := by
  apply readLevel.mutual_induct
  case case1 =>
    intro level tokens found hOperand ih hTokens refusal h
    rw [levelReading, result_readLevel, hOperand] at h
    have hRefused :
        operandReading level tokens = .error refusal := by
      rw [operandReading, hOperand]
      exact h
    rw [← List.nil_append tokens]
    apply (ih hTokens refusal hRefused).prepend
    · intro list other _ hOther
      rw [operandReading] at hOther
      rw [List.nil_append, levelReading, result_readLevel,
        hOther]
      rfl
    · rintro list ⟨e, hList⟩
      exact ⟨e, .operand hList⟩
  case case2 =>
    -- The operand is read again, since the chain takes the same
    -- tokens behind it, or has the same one ahead.
    intro level tokens left middle shorter hOperand _ ihChain
      hTokens refusal h
    rw [levelReading, result_readLevel, hOperand] at h
    rcases readOperand_again (by rw [hOperand]; rfl) with
      ⟨taken, rfl, hTaken, hAgain⟩
    have hMiddle : Lexed middle :=
      (List.forall_mem_append.mp hTokens).2
    apply
      (ihChain hMiddle taken refusal (.operand hTaken) h).prepend
    · intro list other hSame hOther
      rw [levelReading, result_readLevel, hAgain list hSame]
      exact hOther
    · exact fun list hList => hList
  case case3 =>
    intro level left hTokens before refusal _ h
    rw [chainReading, result_readChain_nil] at h
    cases h
  case case4 =>
    intro level left t tokens hOwn hTokens before refusal _ h
    rw [chainReading, result_readChain_stop hOwn] at h
    cases h
  case case5 =>
    intro level left t tokens op hOwn found hOperand ih
      hTokens before refusal hBefore h
    rw [chainReading, result_readChain_operator hOwn, hOperand]
      at h
    have hRefused :
        operandReading level tokens = .error refusal := by
      rw [operandReading, hOperand]
      exact h
    have hBehind : Lexed tokens :=
      (List.forall_mem_cons.mp hTokens).2
    rw [← List.singleton_append]
    apply (ih hBehind refusal hRefused).prepend
    · intro list other _ hOther
      rw [operandReading] at hOther
      rw [List.singleton_append, chainReading,
        result_readChain_operator hOwn, hOther]
      rfl
    · rintro list ⟨e, hList⟩
      exact
        ⟨_, .operation hBefore (joins_iff.mpr hOwn) hList⟩
  case case6 =>
    intro level left t tokens op hOwn right middle shorter
      hOperand _ ihChain hTokens before refusal hBefore h
    rw [chainReading, result_readChain_operator hOwn, hOperand]
      at h
    rcases readOperand_again (by rw [hOperand]; rfl) with
      ⟨taken, rfl, hTaken, hAgain⟩
    have hMiddle : Lexed middle :=
      (List.forall_mem_append.mp
        (List.forall_mem_cons.mp hTokens).2).2
    have hWhole :
        Derives (.level level) (before ++ t :: taken)
          (.binary op left right) :=
      .operation hBefore (joins_iff.mpr hOwn) hTaken
    rw [← List.cons_append]
    apply (ihChain hMiddle _ refusal hWhole h).prepend
    · intro list other hSame hOther
      rw [List.cons_append, chainReading,
        result_readChain_operator hOwn, hAgain list hSame]
      exact hOther
    · intro list hList
      rwa [List.append_assoc] at hList
  case case7 =>
    intro level tokens next hNext ih hTokens refusal h
    have hRun : operandReading level = levelReading next :=
      funext fun _ => result_readOperand_level hNext
    rw [hRun] at h ⊢
    rw [operand_of_tighter hNext]
    exact ih hTokens refusal h
  case case8 =>
    intro level tokens hNext ih hTokens refusal h
    have hRun : operandReading level = unaryReading :=
      funext fun _ => result_readOperand_unary hNext
    rw [hRun] at h ⊢
    rw [operand_of_tightest hNext]
    exact ih hTokens refusal h
  case case9 =>
    intro hTokens refusal h
    rw [unaryReading, result_readUnary_nil] at h
    cases h
    apply breaksOff_first
    intro list hList
    rw [List.head?_eq_none_iff.mp hList]
    exact result_readUnary_nil
  case case10 =>
    intro t tokens op hOp ih hTokens refusal h
    rw [unaryReading, result_readUnary_operator hOp] at h
    have hBehind : Lexed tokens :=
      (List.forall_mem_cons.mp hTokens).2
    rw [← List.singleton_append]
    apply
      (ih hBehind refusal (map_eq_error_iff.mp h)).prepend
    · intro list other _ hOther
      rw [List.singleton_append, unaryReading,
        result_readUnary_operator hOp]
      exact map_eq_error_iff.mpr hOther
    · rintro list ⟨e, hList⟩
      exact ⟨_, .prefixed (precedes_iff.mpr hOp) hList⟩
  case case11 =>
    intro t tokens hOp ih hTokens refusal h
    rw [unaryReading, result_readUnary_primary hOp] at h
    exact ih hTokens hOp refusal h
  case case12 | case13 | case14 | case15 =>
    intro t tokens hParen
    intros
    rename_i ih hTokens hOp refusal h
    exact
      breaksOff_parens hParen
        (ih (List.forall_mem_cons.mp hTokens).2)
        ((result_readUnary_primary hOp).trans h)
  case case16 =>
    intro t tokens hParen hTokens hOp refusal h
    rw [result_readPrimary_atom hParen] at h
    exact breaksOff_readAtom hTokens hOp hParen h

------------------------------------------------------------
-- Expressions
------------------------------------------------------------

/- No expression is refused as a whole. -/
theorem not_isPhrase_of_refused
    {other : Refusal}
    (h : readingAll tokens = .error other) :
    ¬ IsPhrase .expression tokens := by
  rintro ⟨e, hTokens⟩
  rw [readingAll_eq_ok_iff.mpr ⟨rfl, hTokens⟩] at h
  cases h

/- What is no expression is refused in time. -/
theorem timely_readingAll
    (hTokens : Lexed tokens)
    (h : readingAll tokens = .error refusal) :
    ∃ taken,
      tokens = taken ++ refusal.rest ∧
        Timely (IsPhrase .expression) taken refusal := by
  rcases Reading.bind_eq_error_iff.mp h with
    hRefused | ⟨e, rest, hRead, hMore⟩
  · rcases breaks_all.1 .or tokens hTokens refusal hRefused with
      ⟨taken, hSplit, hBreaks⟩
    refine ⟨taken, hSplit, hBreaks.found, hBreaks.possible, ?_⟩
    intro rest hRest
    rcases hBreaks.again rest hRest with ⟨other, hOther⟩
    exact
      not_isPhrase_of_refused
        (Reading.bind_eq_error_iff.mpr (.inl hOther))
  · rcases reading_again hRead with
      ⟨taken, rfl, hTaken, hAgain⟩
    rcases Reading.bind_eq_error_iff.mp hMore with
      hEnd | ⟨_, _, _, hPure⟩
    · rcases Reading.finish_eq_error_iff.mp hEnd with
        ⟨rfl, hRest⟩
      refine ⟨taken, rfl, rfl, ?_, ?_⟩
      · refine ⟨[], by simp [Unended], ?_⟩
        rw [List.append_nil]
        exact ⟨e, hTaken⟩
      · intro rest' hSame
        have hRest' : rest' ≠ [] := by
          rintro rfl
          exact hRest (List.head?_eq_none_iff.mp hSame.symm)
        apply not_isPhrase_of_refused
        apply Reading.bind_eq_error_iff.mpr
        refine .inr ⟨e, rest', hAgain rest' hSame, ?_⟩
        apply Reading.bind_eq_error_iff.mpr
        exact
          .inl (Reading.finish_eq_error_iff.mpr ⟨rfl, hRest'⟩)
    · cases hPure

end Expr

namespace Reader

/- The tokens are read as an expression. -/
def HoldsExpression (tokens : List Token) : Prop :=
  ∃ e, ((ofTokens tokens).run Expr.readingAll).1 = .ok e

theorem holdsExpression_iff
    {tokens : List Token} :
    HoldsExpression tokens ↔
      Expr.IsPhrase .expression (ofTokens tokens).ahead := by
  simp [HoldsExpression, Expr.IsPhrase, run_ok_iff,
    Expr.readingAll_eq_ok_iff]

/-
  Where the tokens of a text are no expression, the reader stops
  before the first of them that is impossible, and the error is
  about this token.
-/
theorem stops_before_impossible
    {text : String}
    {tokens : List Token}
    {error : ParseError}
    {after : Reader}
    (hText : tokenize text = .ok tokens)
    (hError :
      (ofTokens (withoutLineEnds tokens)).run Expr.readingAll =
        (.error error, after)) :
    ∃ k,
      FirstImpossible HoldsExpression (withoutLineEnds tokens)
          k error.found ∧
        after.ahead ++ [after.stop] =
          (withoutLineEnds tokens).drop k := by
  rcases exists_withoutLineEnds hText with
    ⟨body, stop, hKept, hStop, hSpelled⟩
  have hBody : Unended body :=
    fun t hT => (hSpelled t hT).ne_finish
  have hLexed : Expr.Lexed body :=
    fun t hT => (hSpelled t hT).1
  have hHolds :
      HoldsExpression =
        fun list =>
          Expr.IsPhrase .expression (ofTokens list).ahead :=
    funext fun list => propext holdsExpression_iff
  rw [hKept, ofTokens_concat hBody hStop] at hError
  cases hRefused : Expr.readingAll body with
  | ok result =>
      simp only [run, hRefused, Prod.mk.injEq, reduceCtorEq,
        false_and] at hError
  | error refusal =>
      simp only [run, hRefused, Prod.mk.injEq,
        Except.error.injEq] at hError
      rcases hError with ⟨rfl, rfl⟩
      rcases Expr.timely_readingAll hLexed hRefused with
        ⟨taken, rfl, hTimely⟩
      rw [hKept, hHolds]
      refine
        ⟨taken.length, hTimely.firstImpossible hBody hStop, ?_⟩
      rw [List.append_assoc, List.drop_left]

/-
  Errors of expressions are about the first of the tokens that
  is impossible, and just the tokens before it are taken.  So
  the error of a text is placed where the text stops to be the
  beginning of an expression.
-/
theorem errors_of_expression_first_impossible
    {text : String}
    {tokens : List Token}
    (hText : tokenize text = .ok tokens) :
    (∀ error after,
      (ofTokens (withoutLineEnds tokens)).run Expr.readingAll =
          (.error error, after) →
        ∃ k,
          FirstImpossible HoldsExpression
              (withoutLineEnds tokens) k error.found ∧
            after.ahead ++ [after.stop] =
              (withoutLineEnds tokens).drop k) ∧
    (∀ e, compile text = .error e →
      ∃ k expected found,
        FirstImpossible HoldsExpression
            (withoutLineEnds tokens) k found ∧
          e.fault = .unexpected expected found ∧
          e.position = found.position) := by
  refine ⟨fun _ _ => stops_before_impossible hText, ?_⟩
  intro e hError
  have hReader :
      expressionReader text =
        .ok (ofTokens (withoutLineEnds tokens)) := by
    rw [expressionReader, hText]
    rfl
  rw [compile, hReader] at hError
  rcases mapError_eq_error_iff.mp hError with
    ⟨error, hRun, rfl⟩
  rcases stops_before_impossible hText (Prod.ext hRun rfl) with
    ⟨k, hFirst, _⟩
  exact ⟨k, error.expected, error.found, hFirst, rfl, rfl⟩

/- An operand is missing on the second line, in parentheses. -/
theorem errors_of_expression_first_impossible_operand :
    ∃ tokens k,
      tokenize "(a +\n* b)" = .ok tokens ∧
        FirstImpossible HoldsExpression
          (withoutLineEnds tokens) k
          ⟨.symbol .star, "*", ⟨2, 1⟩⟩ := by
  have hText :
      (tokenize "(a +\n* b)").map List.length = .ok 8 := by
    decide +kernel
  have hFault :
      (compile "(a +\n* b)").map (fun _ => ()) =
        .error
          ⟨.unexpected .expression
              ⟨.symbol .star, "*", ⟨2, 1⟩⟩,
            "(a +\n* b)", ⟨2, 1⟩, none⟩ := by
    decide +kernel
  rcases map_eq_ok_iff.mp hText with ⟨tokens, hTokens, _⟩
  rcases
      (errors_of_expression_first_impossible hTokens).2 _
        (map_eq_error_iff.mp hFault) with
    ⟨k, expected, found, hFirst, hFound, _⟩
  cases hFound
  exact ⟨tokens, k, hTokens, hFirst⟩

end Reader

end Rulebook
