import Rulebook.Compile

/-
  The parts of a `given` line: the runs of tokens between the
  commas outside parentheses, where the depth of parentheses is
  counted from the start of the line and never below zero.

  Key definitions include:
    * `Grammar.depth`
    * `Grammar.Divides`
    * `Grammar.Whole`
    * `Grammar.Parted`

  Main results:
    * `splitCommas_append_comma`
    * `Grammar.parted_iff`
    * `Grammar.Parted.infix_of_mem`
    * `Grammar.Parted.exists_front`
-/

namespace Rulebook

------------------------------------------------------------
-- Depth
------------------------------------------------------------

namespace Grammar

/- The depth behind one more token, zero at least. -/
def deepen
    (depth : Nat)
    (t : Token) : Nat :=
  if t.kind = .symbol .leftParen then depth + 1
  else if t.kind = .symbol .rightParen then depth - 1
  else depth

/- The depth of parentheses behind the start of a line. -/
def depth (tokens : List Token) : Nat :=
  tokens.foldl deepen 0

/- The depth that the line is split by is this one. -/
theorem depthAfter_eq_deepen
    (depth : Nat)
    (t : Token) : depthAfter depth t.kind = deepen depth t := by
  unfold depthAfter deepen
  split
  · simp [*]
  · simp [*]
  · rename_i hLeft hRight
    rw [if_neg hLeft, if_neg hRight]

theorem deepen_comma
    {depth : Nat}
    {t : Token}
    (h : t.kind = .symbol .comma) : deepen depth t = depth := by
  simp [deepen, h]

theorem depth_append
    (before tokens : List Token) :
    depth (before ++ tokens) =
      tokens.foldl deepen (depth before) :=
  List.foldl_append

/- A comma changes no depth. -/
theorem depth_concat_comma
    {before : List Token}
    {t : Token}
    (h : t.kind = .symbol .comma) :
    depth (before ++ [t]) = depth before := by
  rw [depth_append]
  exact deepen_comma h

end Grammar

open Grammar

------------------------------------------------------------
-- Splitting
------------------------------------------------------------

/- A line has at least one part. -/
theorem exists_splitCommas
    (depth : Nat)
    (tokens : List Token) :
    ∃ part parts, splitCommas depth tokens = part :: parts := by
  cases tokens with
  | nil => exact ⟨[], [], rfl⟩
  | cons t tokens =>
      unfold splitCommas
      split
      · exact ⟨_, _, rfl⟩
      · split
        · exact ⟨_, _, rfl⟩
        · exact ⟨_, _, rfl⟩

/- A comma outside parentheses ends a part. -/
theorem splitCommas_comma
    {t : Token}
    (tokens : List Token)
    (h : t.kind = .symbol .comma) :
    splitCommas 0 (t :: tokens) = [] :: splitCommas 0 tokens := by
  simp [splitCommas, h]

/- Any other token goes to the first part behind it. -/
theorem splitCommas_inside
    {depth : Nat}
    {t : Token}
    {tokens part : List Token}
    {parts : List (List Token)}
    (hInside : ¬ (t.kind = .symbol .comma ∧ depth = 0))
    (hParts :
      splitCommas (deepen depth t) tokens = part :: parts) :
    splitCommas depth (t :: tokens) = (t :: part) :: parts := by
  rw [splitCommas, if_neg hInside, depthAfter_eq_deepen, hParts]

/-
  Behind a comma outside parentheses a line is split as if it
  began there.
-/
theorem splitCommas_append_comma
    {depth : Nat}
    {xs ys : List Token}
    {t : Token}
    (hComma : t.kind = .symbol .comma)
    (hDepth : xs.foldl deepen depth = 0) :
    splitCommas depth (xs ++ t :: ys) =
      splitCommas depth xs ++ splitCommas 0 ys := by
  induction xs generalizing depth with
  | nil =>
      have hZero : depth = 0 := hDepth
      rw [hZero]
      exact splitCommas_comma ys hComma
  | cons x xs ih =>
      have hMore := ih hDepth
      rcases exists_splitCommas (deepen depth x) xs with
        ⟨part, parts, hParts⟩
      by_cases hX : x.kind = .symbol .comma ∧ depth = 0
      · rcases hX with ⟨hX, rfl⟩
        rw [deepen_comma hX] at hMore
        rw [List.cons_append, splitCommas_comma _ hX, hMore,
          splitCommas_comma _ hX]
        rfl
      · rw [hParts, List.cons_append] at hMore
        rw [List.cons_append, splitCommas_inside hX hMore,
          splitCommas_inside hX hParts]
        rfl

------------------------------------------------------------
-- Parts
------------------------------------------------------------

namespace Grammar

/- A token behind others is a comma outside parentheses. -/
def Divides
    (before : List Token)
    (t : Token) : Prop :=
  t.kind = .symbol .comma ∧ depth before = 0

/- A run of tokens behind others holds no such comma. -/
def Whole (before run : List Token) : Prop :=
  ∀ front t back,
    run = front ++ t :: back → ¬ Divides (before ++ front) t

/-
  Tokens behind others have these parts: each part is whole, and
  a comma outside parentheses stands between two of them.
-/
inductive Parted :
    List Token → List Token → List (List Token) → Prop where
  | last
      {before part : List Token}
      (hPart : Whole before part) :
      Parted before part [part]
  | comma
      {before part rest : List Token}
      {t : Token}
      {parts : List (List Token)}
      (hPart : Whole before part)
      (hComma : Divides (before ++ part) t)
      (hMore : Parted (before ++ part ++ [t]) rest parts) :
      Parted before (part ++ t :: rest) (part :: parts)

theorem whole_nil (before : List Token) : Whole before [] := by
  intro front t back h
  simp at h

theorem whole_cons_iff
    {before run : List Token}
    {t : Token} :
    Whole before (t :: run) ↔
      ¬ Divides before t ∧ Whole (before ++ [t]) run := by
  constructor
  · intro h
    constructor
    · simpa using h [] t run rfl
    · intro front u back hRun
      rw [hRun] at h
      simpa using h (t :: front) u back rfl
  · rintro ⟨hFirst, hMore⟩ front u back hRun
    cases front with
    | nil =>
        cases hRun
        simpa using hFirst
    | cons v front =>
        cases hRun
        simpa using hMore front u back rfl

/- A whole run is not split. -/
theorem splitCommas_of_whole
    {before run : List Token}
    (h : Whole before run) :
    splitCommas (depth before) run = [run] := by
  induction run generalizing before with
  | nil => rfl
  | cons t run ih =>
      rcases whole_cons_iff.mp h with ⟨hFirst, hMore⟩
      have hRun := ih hMore
      rw [depth_append] at hRun
      exact splitCommas_inside hFirst hRun

/- A token that divides nothing belongs to the first part. -/
theorem Parted.cons
    {before tokens part : List Token}
    {t : Token}
    {parts : List (List Token)}
    (hFirst : ¬ Divides before t)
    (h : Parted (before ++ [t]) tokens (part :: parts)) :
    Parted before (t :: tokens) ((t :: part) :: parts) := by
  cases h with
  | last hPart => exact .last (whole_cons_iff.mpr ⟨hFirst, hPart⟩)
  | @comma _ _ rest u _ hPart hComma hMore =>
      rw [← List.append_cons] at hComma hMore
      exact
        .comma (whole_cons_iff.mpr ⟨hFirst, hPart⟩) hComma hMore

/- What a line is split into are parts of it. -/
theorem parted_splitCommas
    (before tokens : List Token) :
    Parted before tokens
      (splitCommas (depth before) tokens) := by
  induction tokens generalizing before with
  | nil => exact .last (whole_nil before)
  | cons t tokens ih =>
      have hMore := ih (before ++ [t])
      by_cases hT : Divides before t
      · rw [depth_concat_comma hT.1, hT.2] at hMore
        rw [hT.2, splitCommas_comma tokens hT.1]
        apply @Parted.comma before [] tokens t
        · exact whole_nil before
        · rwa [List.append_nil]
        · rwa [List.append_nil]
      · rcases exists_splitCommas (depth (before ++ [t])) tokens
          with ⟨part, parts, hParts⟩
        rw [hParts] at hMore
        rw [depth_append] at hParts
        rw [splitCommas_inside hT hParts]
        exact hMore.cons hT

/- There are no others. -/
theorem parted_iff
    {before tokens : List Token}
    {parts : List (List Token)} :
    Parted before tokens parts ↔
      parts = splitCommas (depth before) tokens := by
  constructor
  · intro h
    induction h with
    | last hPart => exact (splitCommas_of_whole hPart).symm
    | @comma before part rest t parts hPart hComma hMore ih =>
        have hDepth := hComma.2
        rw [depth_concat_comma hComma.1, hDepth] at ih
        rw [depth_append] at hDepth
        rw [splitCommas_append_comma hComma.1 hDepth,
          splitCommas_of_whole hPart, ih, List.singleton_append]
  · rintro rfl
    exact parted_splitCommas before tokens

/- A part is found among the tokens as it is. -/
theorem Parted.infix_of_mem
    {before tokens part : List Token}
    {parts : List (List Token)}
    (h : Parted before tokens parts)
    (hPart : part ∈ parts) : part <:+: tokens := by
  induction h with
  | last hWhole =>
      cases List.mem_singleton.mp hPart
      exact List.infix_rfl
  | @comma before first rest t parts hWhole hComma hMore ih =>
      rcases List.mem_cons.mp hPart with rfl | hRest
      · exact (List.prefix_append _ _).isInfix
      · have hSuffix : rest <:+ first ++ t :: rest := by
          rw [List.append_cons]
          exact List.suffix_append _ _
        exact (ih hRest).trans hSuffix.isInfix

/- The first part begins the line. -/
theorem Parted.head_begins
    {before tokens part : List Token}
    {parts : List (List Token)}
    (h : Parted before tokens (part :: parts)) :
    part <+: tokens := by
  cases h with
  | last hPart => exact List.prefix_rfl
  | comma hPart hComma hMore => exact List.prefix_append _ _

/- Behind the first part, each has something before it. -/
theorem Parted.exists_front
    {before tokens part : List Token}
    {parts others : List (List Token)}
    (h : Parted before tokens (parts ++ part :: others))
    (hParts : parts ≠ []) :
    ∃ front back,
      front ≠ [] ∧ tokens = front ++ part ++ back := by
  cases parts with
  | nil => exact absurd rfl hParts
  | cons first parts =>
      have hMember : part ∈ parts ++ part :: others := by simp
      rw [List.cons_append] at h
      generalize parts ++ part :: others = rest
        at h hMember
      cases h with
      | last hPart => cases hMember
      | @comma _ _ behind t _ hPart hComma hMore =>
          rcases hMore.infix_of_mem hMember with
            ⟨front, back, rfl⟩
          exact ⟨first ++ t :: front, back, by simp, by simp⟩

end Grammar

end Rulebook
