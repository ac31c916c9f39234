import Rulebook.Proofs.Program.Spans
import Rulebook.Proofs.Value.Paths

/-
  The target of a rule is kept as a text, with dots between its
  names.  This text is always a path, and its segments are the
  names that were read.

  Key definitions include:
    * `Ranges.codes`
    * `identifiers`

  Main results:
    * `Unicode.isBlank_of_continuesWord`
    * `Unicode.trim_of_no_blanks`
    * `Lexeme.isSegment`
    * `Grammar.RuleSyntax.ofText?_target`
-/

namespace Rulebook

------------------------------------------------------------
-- Blanks
------------------------------------------------------------

namespace Unicode

/- The code points of the characters in some ranges. -/
def Ranges.codes (ranges : Ranges) : List Nat :=
  ranges.flatMap fun range =>
    List.range' range.1 (range.2 + 1 - range.1)

theorem Ranges.toNat_mem_codes
    {ranges : Ranges}
    {c : Char}
    (h : ranges.contains c = true) :
    c.toNat ∈ ranges.codes := by
  rcases List.any_eq_true.mp h with ⟨range, hRange, hInside⟩
  simp only [Bool.and_eq_true, decide_eq_true_eq] at hInside
  apply List.mem_flatMap.mpr
  refine ⟨range, hRange, ?_⟩
  rw [List.mem_range'_1]
  omega

/-
  No character of a word is a blank.  There are few blanks, and
  none of them is a letter or a numeral.
-/
theorem isBlank_of_continuesWord
    {c : Char}
    (h : continuesWord c = true) : isBlank c = false := by
  have hBlanks :
      ∀ code ∈ blanks.codes,
        continuesWord (Char.ofNat code) = false := by
    decide +kernel
  -- A blank would be one of these, but `c` goes on a word.
  by_contra hBlank
  have hCode : c.toNat ∈ blanks.codes :=
    Ranges.toNat_mem_codes (by simpa [isBlank] using hBlank)
  have hNone := hBlanks _ hCode
  rw [Char.ofNat_toNat, h] at hNone
  cases hNone

/- A text without blanks has nothing to trim. -/
theorem trim_of_no_blanks
    {text : String}
    (h : ∀ c ∈ text.toList, isBlank c = false) :
    trim text = text := by
  have hKeep :
      ∀ chars : List Char,
        (∀ c ∈ chars, isBlank c = false) →
          chars.dropWhile isBlank = chars := by
    intro chars hChars
    exact
      @dropWhile_run _ isBlank [] chars (by simp)
        fun c hC => hChars c (List.mem_of_mem_head? hC)
  have hStrip :
      stripEnds isBlank text.toList = text.toList := by
    unfold stripEnds
    rw [hKeep _ h, hKeep _ (by simpa using h),
      List.reverse_reverse]
  rw [trim, hStrip, String.ofList_toList]

end Unicode

------------------------------------------------------------
-- Names
------------------------------------------------------------

/- The names among some tokens. -/
def identifiers (tokens : List Token) : List String :=
  (tokens.filter (·.kind = .identifier)).map (·.lexeme)

/- Names behind dots are all the names among their tokens. -/
theorem Grammar.Names.eq_identifiers
    {tokens : List Token}
    {names : List String}
    (h : Names tokens names) : names = identifiers tokens := by
  unfold identifiers
  induction h with
  | none => rfl
  | more hDot hName hMore ih =>
      simp [hDot, hName, ← ih]

/- A name is made of the characters of words. -/
theorem Lexeme.continuesWord_of_identifier
    {lexeme : List Char}
    (h : Lexeme .identifier lexeme) :
    ∀ c ∈ lexeme, continuesWord c = true := by
  generalize hKind : TokenKind.identifier = kind at h
  cases h with
  | word hStart hMore =>
      exact
        List.forall_mem_cons.mpr
          ⟨continuesWord_of_startsWord hStart, hMore⟩
  | _ => cases hKind

/- The lexeme of a name can be a segment of a path. -/
theorem Lexeme.isSegment
    {lexeme : String}
    (h : Lexeme .identifier lexeme.toList) :
    lexeme ≠ "" ∧
      Unicode.trim lexeme = lexeme ∧
      '.' ∉ lexeme.toList := by
  have hWord := h.continuesWord_of_identifier
  refine ⟨?_, ?_, ?_⟩
  · rintro rfl
    exact h.ne_nil (by simp) rfl
  · apply Unicode.trim_of_no_blanks
    intro c hC
    exact Unicode.isBlank_of_continuesWord (hWord c hC)
  · intro hDot
    exact absurd (hWord _ hDot) (by decide)

------------------------------------------------------------
-- Rules
------------------------------------------------------------

namespace Grammar

/- The names of a target are those of its tokens. -/
theorem RuleSyntax.names_eq_identifiers (r : RuleSyntax) :
    r.first.lexeme :: r.names =
      identifiers (r.first :: r.more) := by
  rw [r.hMore.eq_identifiers]
  simp [identifiers, r.hFirst]

/- Each of them is the lexeme of a name. -/
theorem RuleSyntax.lexeme_of_mem_names
    {r : RuleSyntax}
    (h :
      ∀ t ∈ r.tokens, Lexeme t.kind t.lexeme.toList) :
    ∀ s ∈ r.first.lexeme :: r.names,
      Lexeme .identifier s.toList := by
  have hTokens : ∀ t ∈ r.first :: r.more, t ∈ r.tokens := by
    intro t hT
    rcases List.mem_cons.mp hT with rfl | hMore
    · simp [RuleSyntax.tokens, RuleSyntax.behindWord]
    · simp [RuleSyntax.tokens, RuleSyntax.behindWord, hMore]
  rw [r.names_eq_identifiers]
  intro s hS
  rcases List.mem_map.mp hS with ⟨t, hT, rfl⟩
  rcases List.mem_filter.mp hT with ⟨hIn, hKind⟩
  have hLexeme := h t (hTokens t hIn)
  rwa [of_decide_eq_true hKind] at hLexeme

/-
  The text of a target is the path of the names that were read
  for it.
-/
theorem RuleSyntax.ofText?_target
    {r : RuleSyntax}
    (h :
      ∀ t ∈ r.tokens, Lexeme t.kind t.lexeme.toList) :
    ∃ path,
      FieldPath.ofText? r.target = some path ∧
        path.segments = identifiers (r.first :: r.more) := by
  have hSegments :
      ∀ s ∈ r.first.lexeme :: r.names,
        s ≠ "" ∧ Unicode.trim s = s ∧ '.' ∉ s.toList :=
    fun s hS => (lexeme_of_mem_names h s hS).isSegment
  rw [← r.names_eq_identifiers, RuleSyntax.target,
    FieldPath.ofText?_intercalate (by simp)
      fun s hS => (hSegments s hS).2]
  exact
    ⟨⟨_, by simp, fun s hS => (hSegments s hS).1⟩,
      FieldPath.ofSegments?_eq_some_iff.mpr rfl, rfl⟩

end Grammar

/- The targets of the rules of a source are paths. -/
theorem Source.ofText?_target
    {source : String}
    {p : Grammar.ProgramSyntax}
    (hText : tokenize source = .ok p.tokens) :
    ∀ r ∈ p.rules,
      ∃ path,
        FieldPath.ofText? r.target = some path ∧
          path.segments =
            identifiers (r.first :: r.more) := by
  intro r hR
  have hTokens : r.tokens <:+: p.body :=
    Grammar.ProgramSyntax.infix_of_mem_constructs
      (Grammar.ProgramSyntax.mem_constructs_of_rule hR)
  apply r.ofText?_target
  intro t hT
  exact lexemes_of_body hText t (hTokens.subset hT)

end Rulebook
