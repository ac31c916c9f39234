import Rulebook.Number.Decimal

/-
  The fewest decimal digits that are read back as the number
  they were taken from, and of those the nearest.

  Key definitions include:
    * `Tie`
    * `Digits`
    * `Decimal.ofMagnitude`
    * `Decimal.cut`
    * `Digits.shortest`
-/

namespace Rulebook

------------------------------------------------------------
-- Exact decimals
------------------------------------------------------------

namespace Decimal

/-
  The exact decimal value of a magnitude.  Below one unit of
  the last place a binary digit is five tenths.
-/
def ofMagnitude (rank : Nat) : Decimal :=
  let significand := Binary64.significand rank
  let shift := Binary64.shift rank
  if 1074 ≤ shift then
    ⟨significand * Nat.pow 2 (shift - 1074), 0⟩
  else
    ⟨significand * Nat.pow 5 (1074 - shift), shift - 1074⟩

/- The digits of the mantissa. -/
def digits (d : Decimal) : List Char :=
  Nat.toDigits 10 d.mantissa

/- The decimal is read as the magnitude of a rank. -/
def reads
    (d : Decimal)
    (rank : Nat) : Bool :=
  d.nearest false == .ofRank false rank

end Decimal

------------------------------------------------------------
-- Shorter decimals
------------------------------------------------------------

/- Which way a value in the middle of two decimals goes. -/
inductive Tie where
  | up
  | even
deriving DecidableEq

/- The lower of two neighbours is the one to take. -/
def Tie.takesLower
    (tie : Tie)
    (lower left unit : Nat) : Bool :=
  2 * left < unit ||
    (2 * left == unit && tie == .even && lower % 2 == 0)

/-
  The decimal of `count` leading digits that is read as the
  magnitude of a rank: the exact value `d` cut behind these
  digits, or cut and raised by one in the last of them.
-/
def Decimal.cut
    (tie : Tie)
    (rank : Nat)
    (d : Decimal)
    (count : Nat) : Option Decimal :=
  let dropped := d.digits.length - count
  let unit := Nat.pow 10 dropped
  let lower := d.mantissa / unit
  let low : Decimal := ⟨lower, d.exponent + dropped⟩
  let high : Decimal := ⟨lower + 1, d.exponent + dropped⟩
  if low.reads rank then
    if high.reads rank &&
        !tie.takesLower lower (d.mantissa % unit) unit then
      some high
    else
      some low
  else if high.reads rank then some high
  else none

/-
  A magnitude as digits behind a point that has been moved by
  `point` places to the right.
-/
structure Digits where
  digits : List Char
  point : Int
deriving DecidableEq

namespace Digits

/- The digits of a decimal without zeros at their end. -/
def ofDecimal (d : Decimal) : Digits :=
  { digits :=
      (d.digits.reverse.dropWhile (· == '0')).reverse
    point := d.exponent + d.digits.length }

/-
  The fewest digits that are read as the magnitude of a rank.
  Seventeen always suffice; the exact value stands in for the
  case that they would not.
-/
def shortest
    (tie : Tie)
    (rank : Nat) : Digits :=
  let exact := Decimal.ofMagnitude rank
  ofDecimal
    (((List.range 17).findSome? fun i =>
      exact.cut tie rank (i + 1)).getD exact)

end Digits

end Rulebook
