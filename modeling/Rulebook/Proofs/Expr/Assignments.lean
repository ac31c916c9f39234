import Mathlib.Data.List.TakeWhile
import Rulebook.Proofs.Expr.Places

/-
  The grammar of the parts of a `given` line, and what a line of
  spellings assigns.

    part := (token without an equals sign)*
          | IDENT (. IDENT)* = expression

  Key definitions include:
    * `Grammar.Assigns`
    * `Grammar.AssignsAll`

  Main results:
    * `holdsEquals_cases`
    * `compileFragment_append`
    * `compileFragment_eq_ok_iff`
    * `compileFragments_eq_ok_iff`
    * `compileFragments_eq_error_iff`
    * `alike_splitCommas`
    * `Grammar.assignsAll_iff_of_alike`
    * `compileAssignments_eq_ok_iff`
    * `compileAssignments_spellingOfTokens_eq_ok_iff`
-/

namespace Rulebook

------------------------------------------------------------
-- Parts
------------------------------------------------------------

/- A part of a line and the assignment that it makes, if any. -/
inductive Grammar.Assigns :
    List Token → Option Assignment → Prop where
  | nothing
      {part : List Token}
      (hPart : ∀ t ∈ part, holdsEquals t = false) :
      Assigns part none
  | field
      {first sign : Token}
      {more source : List Token}
      {names : List String}
      {path : FieldPath}
      {value : Expr}
      (hFirst : first.kind = .identifier)
      (hMore : Names more names)
      (hPath : path.segments = first.lexeme :: names)
      (hSign : sign.kind = .symbol .assign)
      (hSource : Derives .expression source value) :
      Assigns (first :: more ++ sign :: source)
        (some ⟨path, value⟩)

open Grammar

/- Names and dots hold no equals sign. -/
theorem holdsEquals_of_names
    {tokens : List Token}
    {names : List String}
    (h : Names tokens names) :
    ∀ t ∈ tokens, holdsEquals t = false := by
  induction h with
  | none => simp
  | more hDot hName hMore ih =>
      rw [List.forall_mem_cons, List.forall_mem_cons]
      refine ⟨?_, ?_, ih⟩
      · rw [holdsEquals, hDot]
        rfl
      · rw [holdsEquals, hName]

theorem holdsEquals_of_assign
    {t : Token}
    (h : t.kind = .symbol .assign) : holdsEquals t = true := by
  rw [holdsEquals, h]
  rfl

/- Nor does a path. -/
theorem holdsEquals_of_path
    {first : Token}
    {more : List Token}
    {names : List String}
    (hFirst : first.kind = .identifier)
    (hMore : Names more names) :
    ∀ t ∈ first :: more, holdsEquals t = false := by
  have hName : holdsEquals first = false := by
    rw [holdsEquals, hFirst]
  exact
    List.forall_mem_cons.mpr
      ⟨hName, holdsEquals_of_names hMore⟩

/- A part holds no equals sign or has a first one. -/
theorem holdsEquals_cases (part : List Token) :
    (∀ t ∈ part, holdsEquals t = false) ∨
      ∃ before sign behind,
        part = before ++ sign :: behind ∧
          (∀ t ∈ before, holdsEquals t = false) ∧
          holdsEquals sign = true := by
  induction part with
  | nil => exact .inl (by simp)
  | cons t part ih =>
      cases hT : holdsEquals t with
      | true => exact .inr ⟨[], t, part, rfl, by simp, hT⟩
      | false =>
          rcases ih with
            hNone | ⟨before, sign, behind, rfl, hBefore, hSign⟩
          · exact .inl (List.forall_mem_cons.mpr ⟨hT, hNone⟩)
          · exact
              .inr
                ⟨t :: before, sign, behind, rfl,
                  List.forall_mem_cons.mpr ⟨hT, hBefore⟩,
                  hSign⟩

/- A target is read if it is a path and nothing else. -/
theorem run_targetReading_eq_ok_iff
    {tokens : List Token}
    {path : FieldPath}
    (hTokens : ∀ t ∈ tokens, t.kind ≠ .finish) :
    ((Reader.ofTokens tokens).run targetReading).1 =
        .ok path ↔
      ∃ first more names,
        tokens = first :: more ∧
          first.kind = .identifier ∧
          Names more names ∧
          path.segments = first.lexeme :: names := by
  rw [Reader.run_ok_iff, Reader.ahead_ofTokens hTokens]
  simp only [targetReading, Reading.bind_eq_ok_iff,
    Reading.path_eq_ok_iff, Reading.finish_eq_ok_iff,
    Reading.pure_eq_ok_iff]
  constructor
  · rintro ⟨_, _, _, ⟨first, taken, names, rfl, hFirst, hNames,
      hPath, _⟩, _, _, ⟨rfl, rfl⟩, rfl, rfl⟩
    exact
      ⟨first, taken, names, by simp, hFirst, hNames, hPath⟩
  · rintro ⟨first, more, names, rfl, hFirst, hNames, hPath⟩
    exact
      ⟨[], path, [],
        ⟨first, more, names, by simp, hFirst, hNames, hPath,
          by simp⟩,
        (), [], ⟨rfl, rfl⟩, rfl, rfl⟩

/- A source is read if an expression follows the sign. -/
theorem run_sourceReading_eq_ok_iff
    {sign : Token}
    {source : List Token}
    {value : Expr}
    (hTokens : ∀ t ∈ sign :: source, t.kind ≠ .finish)
    (hSign : sign.kind = .symbol .assign) :
    ((Reader.ofTokens (sign :: source)).run
        sourceReading).1 = .ok value ↔
      Derives .expression source value := by
  have hSkip :
      Reading.skip (.symbol .assign) (sign :: source) =
        .ok ((), source) := by
    simp [Reading.skip, hSign]
  rw [Reader.run_ok_iff, Reader.ahead_ofTokens hTokens]
  simp [sourceReading, Reading.bind_eq_ok_iff, hSkip,
    Expr.readingAll_eq_ok_iff]

/- A part without an equals sign assigns nothing. -/
theorem compileFragment_of_none
    {fragment : List Token}
    (h : ∀ t ∈ fragment, holdsEquals t = false) :
    compileFragment fragment = .ok none := by
  have hBehind :
      fragment.dropWhile (!holdsEquals ·) = [] := by
    rw [List.dropWhile_eq_nil_iff]
    simpa using h
  rw [compileFragment, hBehind]

/-
  Around the first sign that is an equals sign, a target and a
  source are read.
-/
theorem compileFragment_append
    {before source : List Token}
    {sign : Token}
    (hBefore : ∀ t ∈ before, holdsEquals t = false)
    (hSign : sign.kind = .symbol .assign) :
    compileFragment (before ++ sign :: source) =
      (do
        let path ←
          ((Reader.ofTokens before).run targetReading).1
        let value ←
          ((Reader.ofTokens (sign :: source)).run
            sourceReading).1
        pure (some ⟨path, value⟩)) := by
  have hRun : ∀ t ∈ before, (!holdsEquals t) = true := by
    simpa using hBefore
  have hStop :
      ∀ t ∈ (sign :: source).head?,
        (!holdsEquals t) = false := by
    simp [holdsEquals_of_assign hSign]
  unfold compileFragment
  rw [dropWhile_run hRun hStop, takeWhile_run hRun hStop]
  simp only [if_pos hSign]

/- Any other sign with an equals sign is refused. -/
theorem compileFragment_of_other_sign
    {before behind : List Token}
    {sign : Token}
    (hBefore : ∀ t ∈ before, holdsEquals t = false)
    (hHolds : holdsEquals sign = true)
    (hSign : sign.kind ≠ .symbol .assign) :
    compileFragment (before ++ sign :: behind) =
      .error ⟨.assignSign, sign⟩ := by
  have hRest :
      (before ++ sign :: behind).dropWhile (!holdsEquals ·) =
        sign :: behind :=
    dropWhile_run (by simpa using hBefore) (by simp [hHolds])
  rw [compileFragment, hRest]
  simp only [if_neg hSign]

/- A part is compiled to the assignment that it makes. -/
theorem compileFragment_eq_ok_iff
    {fragment : List Token}
    {result : Option Assignment}
    (hTokens : ∀ t ∈ fragment, t.kind ≠ .finish) :
    compileFragment fragment = .ok result ↔
      Assigns fragment result := by
  constructor
  · intro h
    rcases holdsEquals_cases fragment with
      hNone | ⟨before, sign, source, rfl, hBefore, hHolds⟩
    · rw [compileFragment_of_none hNone] at h
      cases h
      exact .nothing hNone
    · by_cases hSign : sign.kind = .symbol .assign
      · rw [compileFragment_append hBefore hSign] at h
        rw [List.forall_mem_append] at hTokens
        rcases exists_of_bind_eq_ok h with ⟨path, hPath, h⟩
        rcases exists_of_bind_eq_ok h with ⟨value, hValue, h⟩
        cases h
        rcases
          (run_targetReading_eq_ok_iff hTokens.1).mp hPath with
          ⟨first, more, names, rfl, hFirst, hMore, hSegments⟩
        rw [run_sourceReading_eq_ok_iff hTokens.2 hSign]
          at hValue
        exact .field hFirst hMore hSegments hSign hValue
      · rw [compileFragment_of_other_sign hBefore hHolds hSign]
          at h
        cases h
  · intro h
    cases h with
    | nothing hPart => exact compileFragment_of_none hPart
    | @field first sign more source names path value hFirst
        hMore hPath hSign hSource =>
        rw [List.forall_mem_append] at hTokens
        have hTarget :=
          (run_targetReading_eq_ok_iff hTokens.1).mpr
            ⟨first, more, names, rfl, hFirst, hMore, hPath⟩
        have hValue :=
          (run_sourceReading_eq_ok_iff hTokens.2 hSign).mpr
            hSource
        rw [compileFragment_append
            (holdsEquals_of_path hFirst hMore) hSign,
          hTarget, hValue]
        rfl

------------------------------------------------------------
-- Lines
------------------------------------------------------------

/- The parts between commas hold tokens of the line only. -/
theorem mem_of_mem_splitCommas
    {tokens part : List Token}
    {depth : Nat}
    (h : part ∈ splitCommas depth tokens) :
    ∀ t ∈ part, t ∈ tokens := by
  fun_induction splitCommas depth tokens generalizing part with
  | case1 depth =>
      rw [List.mem_singleton] at h
      simp [h]
  | case2 depth t tokens hComma ih =>
      rcases List.mem_cons.mp h with rfl | hMore
      · simp
      · exact fun u hU => List.mem_cons_of_mem _ (ih hMore u hU)
  | case3 depth t tokens hComma hNone ih =>
      rw [List.mem_singleton] at h
      simp [h]
  | case4 depth t tokens hComma first parts hParts ih =>
      rw [hParts] at ih
      rcases List.mem_cons.mp h with rfl | hMore
      · intro u hU
        rcases List.mem_cons.mp hU with rfl | hU
        · exact List.mem_cons_self
        · exact
            List.mem_cons_of_mem _
              (ih List.mem_cons_self u hU)
      · intro u hU
        exact
          List.mem_cons_of_mem _
            (ih (List.mem_cons_of_mem _ hMore) u hU)

/- Parts are compiled if each of them is, one by one. -/
theorem compileFragments_eq_ok_iff
    {parts : List (List Token)}
    {list : List Assignment}
    (hParts : ∀ part ∈ parts, ∀ t ∈ part, t.kind ≠ .finish) :
    compileFragments parts = .ok list ↔
      ∃ results,
        List.Forall₂ Assigns parts results ∧
          results.flatMap Option.toList = list := by
  induction parts generalizing list with
  | nil =>
      simp [compileFragments, eq_comm]
  | cons part parts ih =>
      rcases List.forall_mem_cons.mp hParts with
        ⟨hPart, hMore⟩
      constructor
      · intro h
        rcases exists_of_bind_eq_ok h with ⟨first, hFirst, h⟩
        rcases exists_of_bind_eq_ok h with ⟨others, hOthers, h⟩
        cases h
        rcases (ih hMore).mp hOthers with
          ⟨results, hResults, rfl⟩
        exact
          ⟨first :: results,
            .cons ((compileFragment_eq_ok_iff hPart).mp hFirst)
              hResults,
            rfl⟩
      · rintro ⟨results, hResults, rfl⟩
        cases hResults with
        | @cons _ first _ results hFirst hResults =>
            rw [compileFragments,
              (compileFragment_eq_ok_iff hPart).mpr hFirst,
              (ih hMore).mpr ⟨results, hResults, rfl⟩]
            rfl

/- The error of several parts is that of the first with one. -/
theorem compileFragments_eq_error_iff
    {parts : List (List Token)}
    {error : ParseError} :
    compileFragments parts = .error error ↔
      ∃ front part back,
        parts = front ++ part :: back ∧
          (∀ p ∈ front, ∃ result,
            compileFragment p = .ok result) ∧
          compileFragment part = .error error := by
  induction parts with
  | nil => simp [compileFragments]
  | cons first parts ih =>
      constructor
      · intro h
        rcases bindResult_eq_error_iff.mp h with
          hHere | ⟨result, hFirst, h⟩
        · exact ⟨[], first, parts, rfl, by simp, hHere⟩
        · rcases bindResult_eq_error_iff.mp h with
            hThere | ⟨_, _, h⟩
          · rcases ih.mp hThere with
              ⟨front, part, back, rfl, hFront, hPart⟩
            exact
              ⟨first :: front, part, back, rfl,
                List.forall_mem_cons.mpr
                  ⟨⟨result, hFirst⟩, hFront⟩,
                hPart⟩
          · cases h
      · rintro ⟨front, part, back, hParts, hFront, hPart⟩
        apply bindResult_eq_error_iff.mpr
        cases front with
        | nil =>
            cases hParts
            exact .inl hPart
        | cons p front =>
            cases hParts
            rcases List.forall_mem_cons.mp hFront with
              ⟨⟨result, hFirst⟩, hFront⟩
            have hThere :=
              ih.mpr ⟨front, part, back, rfl, hFront, hPart⟩
            refine .inr ⟨result, hFirst, ?_⟩
            exact bindResult_eq_error_iff.mpr (.inl hThere)

/- What the parts of a line assign, one behind the other. -/
def Grammar.AssignsAll
    (tokens : List Token)
    (list : List Assignment) : Prop :=
  ∃ results,
    List.Forall₂ Assigns (splitCommas 0 tokens) results ∧
      results.flatMap Option.toList = list

------------------------------------------------------------
-- Lines That Say The Same
------------------------------------------------------------

variable {tokens others : List Token}

/- Lines that say the same have parts that say the same. -/
theorem alike_splitCommas
    (h : List.Forall₂ Token.Alike tokens others)
    (depth : Nat) :
    List.Forall₂ (List.Forall₂ Token.Alike)
      (splitCommas depth tokens)
      (splitCommas depth others) := by
  induction h generalizing depth with
  | nil => exact .cons .nil .nil
  | @cons t u tokens others hFirst _ ih =>
      simp only [splitCommas, hFirst.kind]
      split
      · exact .cons .nil (ih 0)
      · have hParts := ih (depthAfter depth u.kind)
        revert hParts
        generalize splitCommas _ tokens = parts
        generalize splitCommas _ others = parts'
        intro hParts
        cases hParts with
        | nil => exact .cons (.cons hFirst .nil) .nil
        | cons hPart hMore =>
            exact .cons (.cons hFirst hPart) hMore

/- The kind of a token says whether it holds an equals sign. -/
theorem holdsEquals_of_alike
    {t u : Token}
    (h : t.Alike u) : holdsEquals t = holdsEquals u := by
  rw [holdsEquals, holdsEquals, h.kind]

namespace Grammar

/- Parts that say the same make the same assignment. -/
theorem Assigns.of_alike
    {part other : List Token}
    {result : Option Assignment}
    (h : Assigns part result)
    (hSame : List.Forall₂ Token.Alike part other) :
    Assigns other result := by
  cases h with
  | nothing hPart =>
      apply Assigns.nothing
      induction hSame with
      | nil => simp
      | cons hFirst _ ih =>
          rw [List.forall_mem_cons] at hPart ⊢
          rw [← holdsEquals_of_alike hFirst]
          exact ⟨hPart.1, ih hPart.2⟩
  | field hFirst hMore hPath hSign hSource =>
      rcases exists_split_of_forall₂ hSame with
        ⟨target, behind, rfl, hTarget, hBehind⟩
      cases hTarget with
      | cons hFirstSame hMoreSame =>
          cases hBehind with
          | cons hSignSame hSourceSame =>
              rw [lexeme_of_alike hFirstSame hFirst] at hPath
              exact
                .field (hFirstSame.kind.symm.trans hFirst)
                  (hMore.of_alike hMoreSame) hPath
                  (hSignSame.kind.symm.trans hSign)
                  (derives_of_alike hSource hSourceSame)

theorem forall₂_assigns_of_alike
    {parts parts' : List (List Token)}
    {results : List (Option Assignment)}
    (h : List.Forall₂ Assigns parts results)
    (hSame :
      List.Forall₂ (List.Forall₂ Token.Alike) parts parts') :
    List.Forall₂ Assigns parts' results := by
  induction h generalizing parts' with
  | nil =>
      cases hSame
      exact .nil
  | cons hFirst _ ih =>
      cases hSame with
      | cons hPart hMore =>
          exact .cons (hFirst.of_alike hPart) (ih hMore)

/- So lines that say the same assign the same. -/
theorem AssignsAll.of_alike
    {list : List Assignment}
    (h : AssignsAll tokens list)
    (hSame : List.Forall₂ Token.Alike tokens others) :
    AssignsAll others list := by
  rcases h with ⟨results, hResults, hList⟩
  exact
    ⟨results,
      forall₂_assigns_of_alike hResults
        (alike_splitCommas hSame 0),
      hList⟩

theorem assignsAll_iff_of_alike
    {list : List Assignment}
    (hSame : List.Forall₂ Token.Alike tokens others) :
    AssignsAll tokens list ↔ AssignsAll others list :=
  ⟨fun h => h.of_alike hSame,
    fun h => h.of_alike (alike_symm hSame)⟩

end Grammar

------------------------------------------------------------
-- Texts
------------------------------------------------------------

/- A text is compiled if all its parts assign something. -/
theorem compileAssignments_eq_ok_iff
    {text : String}
    {body : List Token}
    {stop : Token}
    {list : List Assignment}
    (hReader : expressionReader text = .ok ⟨body, stop⟩)
    (hBody : ∀ t ∈ body, Respellable t) :
    compileAssignments text = .ok list ↔
      AssignsAll body list := by
  have hParts :
      ∀ part ∈ splitCommas 0 body,
        ∀ t ∈ part, t.kind ≠ .finish :=
    fun part hPart t hT =>
      (hBody t (mem_of_mem_splitCommas hPart t hT)).ne_finish
  rw [compileAssignments, hReader]
  simp only [mapError_eq_ok_iff]
  rw [fragmentsOf, compileFragments_eq_ok_iff hParts]
  rfl

/-
  The text of the spellings of tokens is compiled to what the
  tokens themselves assign.
-/
theorem compileAssignments_spellingOfTokens_eq_ok_iff
    {list : List Assignment}
    (h : ∀ t ∈ tokens, Respellable t) :
    compileAssignments (spellingOfTokens tokens) = .ok list ↔
      AssignsAll tokens list := by
  rw [compileAssignments_eq_ok_iff
    (expressionReader_spellingOfTokens h)
    (respellable_of_mem_inRow h)]
  exact
    assignsAll_iff_of_alike
      (alike_of_unplaced (map_unplaced_inRow 1 tokens))

end Rulebook
