import Mathlib.Data.List.DropRight
import Rulebook.FieldPath

/-
  Paths and their texts: a path that was read from a text is
  read back from its own text, which tells it from all others.

  Key definitions include:
    * `SegmentsOverlap`
    * `FieldPath.Overlaps`
    * `FieldPath.ProperPrefix`

  Main results:
    * `splitAt_eq_splitOn`
    * `Unicode.trim_trim`
    * `FieldPath.ofText?_intercalate`
    * `FieldPath.ofText?_text`
    * `FieldPath.text_inj_of_ofText?`
-/

namespace Rulebook

------------------------------------------------------------
-- Splitting And Trimming
------------------------------------------------------------

/- The parts of a text are what the library splits it into. -/
theorem splitAt_eq_splitOn
    (mark : Char)
    (chars : List Char) :
    splitAt mark chars = chars.splitOn mark := by
  induction chars with
  | nil => simp [splitAt]
  | cons c chars ih =>
      rw [splitAt, ih, List.splitOn_cons_eq_if_modifyHead]
      by_cases hMark : c = mark
      · simp [hMark]
      · cases hParts : chars.splitOn mark with
        | nil => exact absurd hParts (List.splitOn_ne_nil _ _)
        | cons part parts => simp [hMark]

/- No part holds the character that stands between them. -/
theorem not_mem_of_mem_splitAt
    {mark : Char}
    {chars : List Char} :
    ∀ part ∈ splitAt mark chars, mark ∉ part := by
  induction chars with
  | nil => simp [splitAt]
  | cons c chars ih =>
      rw [splitAt]
      by_cases hMark : c = mark
      · simpa [hMark] using ih
      · rw [if_neg hMark]
        cases hParts : splitAt mark chars with
        | nil => simp [Ne.symm hMark]
        | cons part parts =>
            simp only [hParts, List.forall_mem_cons] at ih ⊢
            refine ⟨?_, ih.2⟩
            simp [Ne.symm hMark, ih.1]

variable {inClass : Char → Bool}
variable {chars : List Char}

/- What is stripped at the end stood behind what is left. -/
theorem stripEnds_isPrefix :
    stripEnds inClass chars <+: chars.dropWhile inClass :=
  List.rdropWhile_prefix inClass _

/- Stripped characters are some of all the characters. -/
theorem mem_of_mem_stripEnds
    {c : Char}
    (h : c ∈ stripEnds inClass chars) : c ∈ chars :=
  (List.dropWhile_suffix inClass).subset
    (stripEnds_isPrefix.subset h)

/- Stripping again changes nothing. -/
theorem stripEnds_stripEnds :
    stripEnds inClass (stripEnds inClass chars) =
      stripEnds inClass chars := by
  have hFront :
      (stripEnds inClass chars).dropWhile inClass =
        stripEnds inClass chars := by
    have hPrefix : stripEnds inClass chars <+: _ :=
      stripEnds_isPrefix
    cases hStripped : stripEnds inClass chars with
    | nil => rfl
    | cons c rest =>
        rw [hStripped] at hPrefix
        rcases hPrefix with ⟨behind, hWhole⟩
        have hHead :
            (chars.dropWhile inClass).head? = some c := by
          rw [← hWhole]
          rfl
        have hOutside :=
          List.head?_dropWhile_not inClass chars
        rw [hHead] at hOutside
        exact
          List.dropWhile_cons_of_neg (by simpa using hOutside)
  calc
    stripEnds inClass (stripEnds inClass chars)
    _ = List.rdropWhile inClass (stripEnds inClass chars) :=
        congrArg (List.rdropWhile inClass) hFront
    _ = stripEnds inClass chars :=
        List.rdropWhile_idempotent inClass _

/- A trimmed text has nothing left to trim. -/
theorem Unicode.trim_trim (text : String) :
    trim (trim text) = trim text := by
  unfold trim
  rw [String.toList_ofList, stripEnds_stripEnds]

namespace FieldPath

------------------------------------------------------------
-- Texts
------------------------------------------------------------

variable {text other : String}
variable {p q : FieldPath}

theorem ofSegments?_segments (p : FieldPath) :
    ofSegments? p.segments = some p :=
  dif_pos ⟨p.segments_ne_nil, p.segment_ne_empty⟩

/- The segments of a text are trimmed and hold no dots. -/
theorem segments_of_ofText?
    (h : ofText? text = some p) :
    ∀ s ∈ p.segments, Unicode.trim s = s ∧ '.' ∉ s.toList := by
  have hSegments :
      ((splitAt '.' text.toList).map fun part =>
        Unicode.trim (String.ofList part)) = p.segments := by
    unfold ofText? ofSegments? at h
    split at h
    · cases h
      rfl
    · cases h
  rw [← hSegments, List.forall_mem_map]
  intro part hPart
  refine ⟨Unicode.trim_trim _, ?_⟩
  intro hDot
  simp only [Unicode.trim, String.toList_ofList] at hDot
  exact
    not_mem_of_mem_splitAt part hPart
      (mem_of_mem_stripEnds hDot)

/- Trimmed segments are read back from between dots. -/
theorem ofText?_intercalate
    {segments : List String}
    (hSome : segments ≠ [])
    (hSegments :
      ∀ s ∈ segments,
        Unicode.trim s = s ∧ '.' ∉ s.toList) :
    ofText? (".".intercalate segments) =
      ofSegments? segments := by
  have hParts :
      splitAt '.' (".".intercalate segments).toList =
        segments.map String.toList := by
    rw [splitAt_eq_splitOn, String.toList_intercalate]
    apply List.splitOn_intercalate
    · rw [List.forall_mem_map]
      exact fun s hS => (hSegments s hS).2
    · simpa using hSome
  have hTrimmed :
      ((segments.map String.toList).map fun part =>
        Unicode.trim (String.ofList part)) = segments := by
    calc
      _ = segments.map Unicode.trim := by simp
      _ = segments.map id :=
          List.map_congr_left fun s hS => (hSegments s hS).1
      _ = segments := List.map_id _
  rw [ofText?, hParts, hTrimmed]

/- A path of a text is read back from its own text. -/
theorem ofText?_text
    (h : ofText? text = some p) :
    ofText? p.text = some p := by
  rw [FieldPath.text,
    ofText?_intercalate p.segments_ne_nil
      (segments_of_ofText? h),
    ofSegments?_segments]

/- So its text tells it from all other paths of texts. -/
theorem text_inj_of_ofText?
    (hP : ofText? text = some p)
    (hQ : ofText? other = some q) :
    p.text = q.text ↔ p = q := by
  constructor
  · intro hSame
    have hBack := ofText?_text hP
    rw [hSame, ofText?_text hQ] at hBack
    exact (Option.some.inj hBack).symm
  · rintro rfl
    rfl

end FieldPath

------------------------------------------------------------
-- Overlaps
------------------------------------------------------------

/- One of two lists of segments is a prefix of the other. -/
def SegmentsOverlap (p q : List String) : Prop :=
  p <+: q ∨ q <+: p

instance (p q : List String) :
    Decidable (SegmentsOverlap p q) :=
  inferInstanceAs (Decidable (p <+: q ∨ q <+: p))

namespace SegmentsOverlap

variable {s t : String}
variable {p q : List String}

/- Behind a common first segment lists overlap as before. -/
theorem cons_iff :
    SegmentsOverlap (s :: p) (s :: q) ↔
      SegmentsOverlap p q := by
  simp [SegmentsOverlap]

/- The empty list overlaps with every list. -/
theorem nil_left : SegmentsOverlap [] q :=
  .inl q.nil_prefix

theorem nil_right : SegmentsOverlap p [] :=
  .inr p.nil_prefix

end SegmentsOverlap

/- One path is a prefix or an extension of the other one. -/
def FieldPath.Overlaps (p q : FieldPath) : Prop :=
  SegmentsOverlap p.segments q.segments

instance (p q : FieldPath) : Decidable (p.Overlaps q) :=
  inferInstanceAs
    (Decidable (SegmentsOverlap p.segments q.segments))

namespace FieldPath

variable {p q : FieldPath}

/- It does not matter which of the two is the longer one. -/
theorem overlaps_comm : p.Overlaps q ↔ q.Overlaps p :=
  or_comm

/- A path overlaps with itself. -/
theorem overlaps_self : p.Overlaps p :=
  .inl List.prefix_rfl

/- A path leads through a shorter one. -/
def ProperPrefix (p q : FieldPath) : Prop :=
  p.segments <+: q.segments ∧ p ≠ q

/- Different paths overlap if one leads through the other. -/
theorem overlaps_iff_of_ne
    (h : p ≠ q) :
    p.Overlaps q ↔ p.ProperPrefix q ∨ q.ProperPrefix p := by
  simp [Overlaps, SegmentsOverlap, ProperPrefix, h, h.symm]

/- Paths that do not overlap are not the same. -/
theorem ne_of_not_overlaps
    (h : ¬ p.Overlaps q) : p ≠ q := by
  rintro rfl
  exact h overlaps_self

end FieldPath

end Rulebook
