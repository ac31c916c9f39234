/-
  Binary floating-point numbers of 64 bits.  A finite number is
  its sign and its rank: the place of its magnitude among all
  the finite magnitudes, from zero upwards.  The rank is also
  the bit pattern of the magnitude, so neighbours in rank are
  neighbours in value.  All NaNs are one number, and the two
  zeros are two.

  Every finite magnitude is a whole number of units, the unit
  being the least positive magnitude 2^-1074.

  Key definitions include:
    * `Binary64`
    * `Binary64.significand`
    * `Binary64.shift`
    * `Binary64.units`
    * `Binary64.unitsOfOne`
    * `Binary64.ofRank`
    * `Binary64.ofBits`
    * `Binary64.toInt64`
    * `Binary64.toBits`
    * `Binary64.key`
    * `Binary64.compare`
-/

namespace Rulebook

------------------------------------------------------------
-- Numbers
------------------------------------------------------------

/- The number of significands of one exponent, 2^52. -/
abbrev Binary64.significands : Nat :=
  0x10000000000000

/-
  The number of finite magnitudes, for 2047 exponents.  It is
  the bit pattern of infinity.
-/
abbrev Binary64.magnitudes : Nat :=
  0x7FF0000000000000

inductive Binary64 where
  | nan
  | infinity
      (negative : Bool)
  | finite
      (negative : Bool)
      (rank : Fin Binary64.magnitudes)
deriving DecidableEq

namespace Binary64

/- The zero of a sign. -/
def zero (negative : Bool) : Binary64 :=
  .finite negative ⟨0, by decide⟩

/- The number one. -/
def one : Binary64 :=
  .finite false ⟨0x3FF0000000000000, by decide⟩

/- Neither NaN nor an infinity. -/
def isFinite : Binary64 → Bool
  | .finite _ _ => true
  | _ => false

/- One of the two zeros. -/
def isZero : Binary64 → Bool
  | .finite _ rank => rank.val == 0
  | _ => false

/-
  The magnitude of a rank with a sign.  A rank that is too
  large for a finite magnitude stands for infinity.
-/
def ofRank
    (negative : Bool)
    (rank : Nat) : Binary64 :=
  if h : rank < magnitudes then .finite negative ⟨rank, h⟩
  else .infinity negative

------------------------------------------------------------
-- Magnitudes
------------------------------------------------------------

/- The number one in units, 2^1074. -/
def unitsOfOne : Nat :=
  Nat.pow 2 1074

/- The binary digits below the significand of a rank. -/
def shift (rank : Nat) : Nat :=
  rank / significands - 1

/- The significand of a rank, below 2^53. -/
def significand (rank : Nat) : Nat :=
  rank - shift rank * significands

/- The magnitude of a rank, in units of 2^-1074. -/
def units (rank : Nat) : Nat :=
  significand rank * Nat.pow 2 (shift rank)

/- A magnitude with its sign. -/
def signed
    (negative : Bool)
    (magnitude : Nat) : Int :=
  if negative then -magnitude else magnitude

/- Without a fractional part. -/
def isWhole : Binary64 → Bool
  | .finite _ rank => units rank % unitsOfOne == 0
  | _ => false

/- The whole part of a magnitude. -/
def wholePart (rank : Nat) : Nat :=
  units rank / unitsOfOne

------------------------------------------------------------
-- Bit patterns
------------------------------------------------------------

/- The pattern of the sign, 2^63. -/
abbrev signBit : Nat :=
  0x8000000000000000

/-
  The whole part of a number as a signed integer of 64 bits.
  What is too large for one is held at the largest.
-/
def toInt64 : Binary64 → Int
  | .nan => 0
  | .infinity negative =>
      if negative then -signBit else signBit - 1
  | .finite negative rank =>
      max (-signBit)
        (min (signBit - 1) (signed negative (wholePart rank)))

/- The number of a pattern of 64 bits. -/
def ofBits (bits : Nat) : Binary64 :=
  let negative := signBit ≤ bits
  let magnitude := bits % signBit
  if magnitude ≤ magnitudes then ofRank negative magnitude
  else .nan

/- The pattern of a number; NaN has the quiet one. -/
def toBits : Binary64 → Nat
  | .nan => 0x7FF8000000000000
  | .infinity negative =>
      (if negative then signBit else 0) + magnitudes
  | .finite negative rank =>
      (if negative then signBit else 0) + rank

------------------------------------------------------------
-- Order
------------------------------------------------------------

/-
  The place of a number in the order of all numbers: negative
  ones by falling magnitude, the negative zero, the positive
  zero, positive ones by rising magnitude, and NaN.
-/
def key : Binary64 → Int
  | .nan => magnitudes + 1
  | .infinity false => magnitudes
  | .infinity true => -(magnitudes + 1)
  | .finite false rank => rank.val
  | .finite true rank => -(rank.val + 1)

/- Three-way comparison; NaN equals itself. -/
def compare (x y : Binary64) : Ordering :=
  if x.key < y.key then .lt
  else if y.key < x.key then .gt
  else .eq

end Binary64

end Rulebook
