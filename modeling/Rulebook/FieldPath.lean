import Rulebook.Unicode.Blank

/-
  Dotted paths such as `cart.total`, which name fields.

  Key definitions include:
    * `FieldPath`
    * `FieldPath.ofSegments?`
    * `FieldPath.ofText?`
    * `FieldPath.text`
-/

namespace Rulebook

/- A path has at least one segment, and none is empty. -/
structure FieldPath where
  segments : List String
  segments_ne_nil : segments ≠ []
  segment_ne_empty : ∀ s ∈ segments, s ≠ ""
deriving DecidableEq

namespace FieldPath

/- The path with these segments, if there is one. -/
def ofSegments? (segments : List String) : Option FieldPath :=
  if h : segments ≠ [] ∧ ∀ s ∈ segments, s ≠ "" then
    some ⟨segments, h.1, h.2⟩
  else
    none

/-
  The path of a text.  Blanks around the dots do not belong to
  the segments.
-/
def ofText? (text : String) : Option FieldPath :=
  ofSegments?
    ((splitAt '.' text.toList).map fun part =>
      Unicode.trim (String.ofList part))

/- The segments with dots between them. -/
def text (path : FieldPath) : String :=
  ".".intercalate path.segments

end FieldPath

end Rulebook
