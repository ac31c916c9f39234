import Rulebook.Number.Binary64

/-
  Rounding to the nearest number.  A positive quotient of units
  is rounded to the significand that it needs, a half going to
  the even one, and the result is the rank of the rounded
  magnitude: a significand that rounds up to 2^53 is the first
  one of the next exponent without further care.

  Key definitions include:
    * `halfEven`
    * `Binary64.nearestRank`
    * `Binary64.nearest`
-/

namespace Rulebook

/-
  A quotient rounded to a whole number, a half going to the
  even neighbour.
-/
def halfEven (num den : Nat) : Nat :=
  let below := num / den
  let left := 2 * (num % den)
  if left < den || (left == den && below % 2 == 0) then
    below
  else
    below + 1

namespace Binary64

/-
  The rank of the magnitude that is nearest to `num / den`
  units.
-/
def nearestRank (num den : Nat) : Nat :=
  let shift := (num / den).log2 - 52
  shift * significands +
    halfEven num (den * Nat.pow 2 shift)

/-
  The number that is nearest to `num / den` units with a sign.
-/
def nearest
    (negative : Bool)
    (num den : Nat) : Binary64 :=
  ofRank negative (nearestRank num den)

end Binary64

end Rulebook
