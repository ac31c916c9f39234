import Rulebook.Number.Arithmetic
import Rulebook.Number.Layout

/-
  The numbers of the language: a binary floating-point number,
  and whether it was written as a whole number.  The second
  part shows in texts only.

  Key definitions include:
    * `Number`
    * `Number.computed`
    * `Number.ofNumeral?`
    * `Number.text`
-/

namespace Rulebook

structure Number where
  value : Binary64
  wholeLiteral : Bool

namespace Number

/- Numbers are equal when their values are. -/
instance : BEq Number where
  beq a b := a.value == b.value

/- A number that comes from a computation. -/
def computed (value : Binary64) : Number :=
  ⟨value, false⟩

/-
  The number of a numeral.  It counts as written whole when
  the numeral has no point.
-/
def ofNumeral? (text : String) : Option Number :=
  (Binary64.ofNumeral? text).map fun value =>
    ⟨value, !text.toList.contains '.'⟩

------------------------------------------------------------
-- Text
------------------------------------------------------------

/- Whole literals keep all their digits and get no point. -/
def wholeLayout : Layout where
  tie := .up
  isPositional _ := true
  wholeEnd := []
  oneDigitEnd := []
  mark := 'E'
  plus := []

/-
  Other numbers always have a point, and an exponent unless
  they lie between a thousandth and ten million.
-/
def computedLayout : Layout where
  tie := .up
  isPositional e := -3 ≤ e && e < 7
  wholeEnd := ['.', '0']
  oneDigitEnd := ['.', '0']
  mark := 'E'
  plus := []

/- The text of a number. -/
def text (n : Number) : String :=
  match n.value with
  | .nan => "NaN"
  | .infinity false => "Infinity"
  | .infinity true => "-Infinity"
  | .finite negative rank =>
      if n.wholeLiteral then wholeLayout.write negative rank
      else computedLayout.write negative rank

end Number

end Rulebook
