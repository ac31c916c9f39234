/-
  Character classes as lists of code point ranges.

  Key definitions include:
    * `Ranges`
    * `Ranges.contains`
-/

namespace Rulebook.Unicode

/-
  A set of characters: the first and the last code point of
  each of its ranges.
-/
abbrev Ranges :=
  List (Nat × Nat)

/- The character lies in one of the ranges. -/
def Ranges.contains
    (ranges : Ranges)
    (c : Char) : Bool :=
  ranges.any fun range =>
    range.1 ≤ c.toNat && c.toNat ≤ range.2

end Rulebook.Unicode
