import Rulebook.Compile
import Rulebook.Proofs.Expr.Lexed
import Rulebook.Proofs.Token.Alike

/-
  Tokens that say the same are the same expression.  So places
  do not matter, and a text of spellings is compiled to what its
  tokens are.

  Main results:
    * `Grammar.derives_of_alike`
    * `Grammar.derives_iff_of_unplaced`
    * `Reader.run_readingAll_iff`
    * `expressionReader_of_tokenize`
    * `compile_eq_ok_iff`
    * `compile_spellingOfTokens_eq_ok_iff`
-/

namespace Rulebook

namespace Grammar

/- Literals that say the same have the same value. -/
theorem Denotes.of_alike
    {t u : Token}
    {value : Value}
    (h : Denotes t value)
    (hSame : t.Alike u) : Denotes u value := by
  have hKind := hSame.kind
  have hLexeme := hSame.lexeme
  cases h with
  | number hNumber hValue =>
      rw [hLexeme (by rw [hNumber]; rfl)] at hValue
      exact .number (hKind.symm.trans hNumber) hValue
  | string hString =>
      rw [hLexeme (by rw [hString]; rfl)]
      exact .string (hKind.symm.trans hString)
  | true hWord => exact .true (hKind.symm.trans hWord)
  | false hWord => exact .false (hKind.symm.trans hWord)
  | null hWord => exact .null (hKind.symm.trans hWord)
  | undefined hWord =>
      exact .undefined (hKind.symm.trans hWord)

/- A name is not told by its kind alone. -/
theorem lexeme_of_alike
    {t u : Token}
    (h : t.Alike u)
    (hName : t.kind = .identifier) :
    t.lexeme = u.lexeme :=
  h.lexeme (by rw [hName]; rfl)

/- Names that say the same are the same. -/
theorem Names.of_alike
    {tokens others : List Token}
    {names : List String}
    (h : Names tokens names)
    (hSame : List.Forall₂ Token.Alike tokens others) :
    Names others names := by
  induction h generalizing others with
  | none =>
      cases hSame
      exact .none
  | more hDot hName hMore ih =>
      cases hSame with
      | cons hDotSame hBehind =>
          cases hBehind with
          | cons hNameSame hMoreSame =>
              rw [lexeme_of_alike hNameSame hName]
              exact
                .more (hDotSame.kind.symm.trans hDot)
                  (hNameSame.kind.symm.trans hName)
                  (ih hMoreSame)

/- Phrases that say the same are the same expression. -/
theorem derives_of_alike
    {phrase : Phrase}
    {tokens others : List Token}
    {e : Expr}
    (h : Derives phrase tokens e)
    (hSame : List.Forall₂ Token.Alike tokens others) :
    Derives phrase others e := by
  induction h generalizing others with
  | operand hOperand ih => exact .operand (ih hSame)
  | operation hLeft hSign hRight ihLeft ihRight =>
      rcases exists_split_of_forall₂ hSame with
        ⟨left', behind, rfl, hLeftSame, hBehind⟩
      cases hBehind with
      | cons hSignSame hRightSame =>
          rw [hSignSame.kind] at hSign
          exact
            .operation (ihLeft hLeftSame) hSign
              (ihRight hRightSame)
  | prefixed hSign hOperand ih =>
      cases hSame with
      | cons hSignSame hOperandSame =>
          rw [hSignSame.kind] at hSign
          exact .prefixed hSign (ih hOperandSame)
  | primary hPrimary ih => exact .primary (ih hSame)
  | literal hValue =>
      cases hSame with
      | cons hTokenSame hNone =>
          cases hNone
          exact .literal (hValue.of_alike hTokenSame)
  | parens hLeft hInner hRight ih =>
      cases hSame with
      | cons hLeftSame hBehind =>
          rcases exists_split_of_forall₂ hBehind with
            ⟨inner', close, rfl, hInnerSame, hClose⟩
          cases hClose with
          | cons hRightSame hNone =>
              cases hNone
              exact
                .parens (hLeftSame.kind.symm.trans hLeft)
                  (ih hInnerSame)
                  (hRightSame.kind.symm.trans hRight)
  | path hFirst hNames hPath =>
      cases hSame with
      | cons hFirstSame hMoreSame =>
          rw [lexeme_of_alike hFirstSame hFirst] at hPath
          exact
            .path (hFirstSame.kind.symm.trans hFirst)
              (hNames.of_alike hMoreSame) hPath

theorem derives_iff_of_alike
    {phrase : Phrase}
    {tokens others : List Token}
    {e : Expr}
    (hSame : List.Forall₂ Token.Alike tokens others) :
    Derives phrase tokens e ↔ Derives phrase others e :=
  ⟨fun h => derives_of_alike h hSame,
    fun h => derives_of_alike h (alike_symm hSame)⟩

/- Places do not matter for what is derived. -/
theorem derives_iff_of_unplaced
    {phrase : Phrase}
    {tokens others : List Token}
    {e : Expr}
    (hSame :
      others.map Token.unplaced =
        tokens.map Token.unplaced) :
    Derives phrase others e ↔ Derives phrase tokens e :=
  derives_iff_of_alike (alike_of_unplaced hSame)

end Grammar

------------------------------------------------------------
-- Texts Of Spellings
------------------------------------------------------------

/- Tokens that can be respelled are no ends of anything. -/
theorem Respellable.ne_finish
    {t : Token}
    (h : Respellable t) : t.kind ≠ .finish :=
  h.1.ne_finish

/- Respellable tokens are read as the grammar derives them. -/
theorem Reader.run_readingAll_iff
    {tokens : List Token}
    {e : Expr}
    (h : ∀ t ∈ tokens, Respellable t) :
    ((ofTokens tokens).run Expr.readingAll).1 = .ok e ↔
      Grammar.Derives .expression tokens e := by
  rw [run_ok_iff, ahead_ofTokens fun t hT => (h t hT).ne_finish]
  simp [Expr.readingAll_eq_ok_iff]

/- The reader of a text has the tokens but the last ahead. -/
theorem expressionReader_of_tokenize
    {text : String}
    {tokens body : List Token}
    {stop : Token}
    (hText : tokenize text = .ok tokens)
    (hKept : withoutLineEnds tokens = body ++ [stop])
    (hStop : stop.kind = .finish)
    (hBody : ∀ t ∈ body, Respellable t) :
    expressionReader text = .ok ⟨body, stop⟩ := by
  have hReader :=
    Reader.ofTokens_concat (fun t hT => (hBody t hT).ne_finish)
      hStop
  rw [← hKept] at hReader
  rw [← hReader, expressionReader, hText]
  rfl

/- A text is compiled to what the grammar derives. -/
theorem compile_eq_ok_iff
    {text : String}
    {body : List Token}
    {stop : Token}
    {e : Expr}
    (hReader : expressionReader text = .ok ⟨body, stop⟩) :
    compile text = .ok e ↔
      Grammar.Derives .expression body e := by
  rw [compile, hReader]
  simp [mapError_eq_ok_iff, Reader.run_ok_iff,
    Expr.readingAll_eq_ok_iff]

/- The text of spellings is read as the tokens in a row. -/
theorem expressionReader_spellingOfTokens
    {tokens : List Token}
    (h : ∀ t ∈ tokens, Respellable t) :
    expressionReader (spellingOfTokens tokens) =
      .ok
        ⟨inRow 1 tokens,
          endAt (1 + (spellingOfTokens tokens).length)⟩ := by
  have hRow : ∀ t ∈ inRow 1 tokens, Respellable t :=
    respellable_of_mem_inRow h
  exact
    expressionReader_of_tokenize
      (tokenize_spellingOfTokens_row h)
      (withoutLineEnds_concat hRow rfl) rfl hRow

/-
  The text of the spellings of tokens is compiled to what the
  grammar derives from the tokens themselves.
-/
theorem compile_spellingOfTokens_eq_ok_iff
    {tokens : List Token}
    {e : Expr}
    (h : ∀ t ∈ tokens, Respellable t) :
    compile (spellingOfTokens tokens) = .ok e ↔
      Grammar.Derives .expression tokens e := by
  rw [compile_eq_ok_iff (expressionReader_spellingOfTokens h)]
  exact
    Grammar.derives_iff_of_unplaced (map_unplaced_inRow 1 tokens)

end Rulebook
