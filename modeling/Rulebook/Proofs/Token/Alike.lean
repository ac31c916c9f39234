import Mathlib.Data.List.Forall2
import Rulebook.Proofs.Token.Spelling

/-
  Tokens that mean the same: their kinds are the same, and so
  are their lexemes unless the kind says all about them.  Places
  do not matter, nor does the case of a keyword.

  Key definitions include:
    * `TokenKind.isOpen`
    * `Token.Alike`
    * `SameTokens`

  Main results:
    * `exists_split_of_forall₂`
    * `alike_inRow`
    * `sameTokens_of_spellings`
-/

namespace Rulebook

------------------------------------------------------------
-- Lists Member By Member
------------------------------------------------------------

section

variable {α β : Type}
variable {R : α → β → Prop}

/- What is related to two lists in a row is two such lists. -/
theorem exists_split_of_forall₂
    {xs ys : List α}
    {zs : List β}
    (h : List.Forall₂ R (xs ++ ys) zs) :
    ∃ xs' ys',
      zs = xs' ++ ys' ∧
        List.Forall₂ R xs xs' ∧
        List.Forall₂ R ys ys' := by
  induction xs generalizing zs with
  | nil => exact ⟨[], zs, rfl, .nil, h⟩
  | cons x xs ih =>
      cases h with
      | cons hFirst hMore =>
          rcases ih hMore with
            ⟨xs', ys', rfl, hFront, hBack⟩
          exact
            ⟨_ :: xs', ys', rfl, .cons hFirst hFront, hBack⟩

/- The other way round the members are related backwards. -/
theorem forall₂_swap
    {xs : List α}
    {ys : List β}
    (h : List.Forall₂ R xs ys) :
    List.Forall₂ (fun y x => R x y) ys xs :=
  List.Forall₂.flip h

/- Members that are related are members of the lists. -/
theorem forall₂_mem
    {xs : List α}
    {ys : List β}
    (h : List.Forall₂ R xs ys) :
    List.Forall₂ (fun x y => x ∈ xs ∧ y ∈ ys ∧ R x y)
      xs ys := by
  rw [List.forall₂_iff_zip]
  refine ⟨h.length_eq, ?_⟩
  intro x y hZip
  rcases List.of_mem_zip hZip with ⟨hX, hY⟩
  exact ⟨hX, hY, List.forall₂_zip h hZip⟩

end

------------------------------------------------------------
-- Tokens
------------------------------------------------------------

/- The kinds whose tokens differ in what they say. -/
def TokenKind.isOpen : TokenKind → Bool
  | .number => true
  | .string => true
  | .identifier => true
  | _ => false

/- Two tokens that say the same. -/
structure Token.Alike (t u : Token) : Prop where
  kind : t.kind = u.kind
  lexeme : t.kind.isOpen = true → t.lexeme = u.lexeme

instance (t u : Token) : Decidable (t.Alike u) :=
  decidable_of_iff
    (t.kind = u.kind ∧
      (t.kind.isOpen = true → t.lexeme = u.lexeme))
    ⟨fun h => ⟨h.1, h.2⟩, fun h => ⟨h.kind, h.lexeme⟩⟩

namespace Token.Alike

variable {t u : Token}

theorem symm (h : t.Alike u) : u.Alike t where
  kind := h.kind.symm
  lexeme hOpen := (h.lexeme (h.kind ▸ hOpen)).symm

/- The place of a token does not matter. -/
theorem of_unplaced
    (h : t.unplaced = u.unplaced) : t.Alike u := by
  rcases Prod.mk.inj h with ⟨hKind, hLexeme⟩
  exact ⟨hKind, fun _ => hLexeme⟩

end Token.Alike

variable {tokens others : List Token}

/- Tokens say the same if they differ in their places only. -/
theorem alike_of_unplaced
    (h :
      tokens.map Token.unplaced =
        others.map Token.unplaced) :
    List.Forall₂ Token.Alike tokens others := by
  have hPairs :
      List.Forall₂ (· = ·) (tokens.map Token.unplaced)
        (others.map Token.unplaced) := by
    rw [List.forall₂_eq_eq_eq]
    exact h
  rw [List.forall₂_map_left_iff,
    List.forall₂_map_right_iff] at hPairs
  exact hPairs.imp fun _ _ => Token.Alike.of_unplaced

theorem alike_symm
    (h : List.Forall₂ Token.Alike tokens others) :
    List.Forall₂ Token.Alike others tokens :=
  (forall₂_swap h).imp fun _ _ => Token.Alike.symm

/- In rows they say what they said. -/
theorem alike_inRow
    (h : List.Forall₂ Token.Alike tokens others)
    (column column' : Nat) :
    List.Forall₂ Token.Alike
      (inRow column tokens) (inRow column' others) := by
  induction h generalizing column column' with
  | nil => exact .nil
  | cons hFirst _ ih =>
      exact .cons ⟨hFirst.kind, hFirst.lexeme⟩ (ih _ _)

------------------------------------------------------------
-- Texts
------------------------------------------------------------

/- Two texts with the same tokens, as far as these matter. -/
def SameTokens (text text' : String) : Prop :=
  ∃ tokens tokens',
    tokenize text = .ok tokens ∧
      tokenize text' = .ok tokens' ∧
      List.Forall₂ Token.Alike tokens tokens'

instance (text text' : String) :
    Decidable (SameTokens text text') :=
  match hText : tokenize text, hText' : tokenize text' with
  | .ok tokens, .ok tokens' =>
      decidable_of_iff
        (List.Forall₂ Token.Alike tokens tokens') (by
          simp [SameTokens, hText, hText'])
  | .error _, _ => isFalse (by simp [SameTokens, hText])
  | _, .error _ => isFalse (by simp [SameTokens, hText'])

theorem SameTokens.symm
    {text text' : String}
    (h : SameTokens text text') : SameTokens text' text := by
  rcases h with ⟨tokens, tokens', hText, hText', hSame⟩
  exact ⟨tokens', tokens, hText', hText, alike_symm hSame⟩

/- Spellings of tokens that say the same have such tokens. -/
theorem sameTokens_of_spellings
    (hTokens : ∀ t ∈ tokens, Respellable t)
    (hOthers : ∀ t ∈ others, Respellable t)
    (h : List.Forall₂ Token.Alike tokens others) :
    SameTokens (spellingOfTokens tokens)
      (spellingOfTokens others) := by
  refine
    ⟨_, _, tokenize_spellingOfTokens_row hTokens,
      tokenize_spellingOfTokens_row hOthers, ?_⟩
  exact
    List.rel_append (alike_inRow h 1 1)
      (.cons ⟨rfl, fun _ => rfl⟩ .nil)

end Rulebook
