import Rulebook.Number.Rounding

/-
  Decimal numbers and their texts.  The text of a decimal is
  digits with an optional point among or beside them and an
  optional exponent; its digits are the ten of ASCII.

  Key definitions include:
    * `Decimal`
    * `Decimal.ofText?`
    * `Decimal.nearest`
    * `Binary64.ofNumeral?`
-/

namespace Rulebook

------------------------------------------------------------
-- Decimals
------------------------------------------------------------

/- The number `mantissa * 10 ^ exponent`. -/
structure Decimal where
  mantissa : Nat
  exponent : Int
deriving DecidableEq

namespace Decimal

/-
  The nearest binary number.  The first two answers only spare
  the computation of huge powers: a mantissa that is not zero
  has a value of at least one, and it lies below
  `10 ^ (log2 mantissa + 1)`.
-/
def nearest
    (negative : Bool)
    (d : Decimal) : Binary64 :=
  if d.mantissa = 0 then .zero negative
  else if 400 < d.exponent then .infinity negative
  else if d.exponent < -(d.mantissa.log2 + 400) then
    .zero negative
  else if 0 ≤ d.exponent then
    .nearest negative
      (d.mantissa * Nat.pow 10 d.exponent.toNat *
        Binary64.unitsOfOne) 1
  else
    .nearest negative
      (d.mantissa * Binary64.unitsOfOne)
      (Nat.pow 10 (-d.exponent).toNat)

------------------------------------------------------------
-- Texts
------------------------------------------------------------

/- The number that digits are read as. -/
def ofDigits (digits : List Char) : Nat :=
  digits.foldl
    (fun n c => 10 * n + (c.toNat - '0'.toNat)) 0

/- A text of one digit or more, and no other character. -/
def natural? (chars : List Char) : Option Nat :=
  if chars.isEmpty || !chars.all Char.isDigit then none
  else some (ofDigits chars)

/- A natural number behind an optional sign. -/
def integer? : List Char → Option Int
  | '-' :: chars =>
      (natural? chars).map fun n => -Int.ofNat n
  | '+' :: chars => (natural? chars).map Int.ofNat
  | chars => (natural? chars).map Int.ofNat

/- The exponent that ends a decimal; without one it is zero. -/
def exponent? : List Char → Option Int
  | [] => some 0
  | c :: chars =>
      if c = 'e' || c = 'E' then integer? chars else none

/- Digits behind a point, if there is one, and the rest. -/
def fraction : List Char → List Char × List Char
  | '.' :: chars =>
      (chars.takeWhile Char.isDigit,
        chars.dropWhile Char.isDigit)
  | chars => ([], chars)

/-
  A decimal without a sign.  It has at least one digit, before
  the point or behind it.
-/
def ofText? (chars : List Char) : Option Decimal :=
  let whole := chars.takeWhile Char.isDigit
  let (part, rest) :=
    fraction (chars.dropWhile Char.isDigit)
  if whole.isEmpty && part.isEmpty then none
  else
    (exponent? rest).map fun e =>
      ⟨ofDigits (whole ++ part), e - part.length⟩

end Decimal

namespace Binary64

------------------------------------------------------------
-- Numerals
------------------------------------------------------------

/- The sign before a number, and what follows it. -/
def splitSign : List Char → Bool × List Char
  | '-' :: chars => (true, chars)
  | '+' :: chars => (false, chars)
  | chars => (false, chars)

/- Equal up to the case of ASCII letters. -/
def sameWord
    (word : String)
    (chars : List Char) : Bool :=
  chars.map Char.toLower == word.toList

/-
  A numeral: an optional sign, and a decimal or one of the words
  `inf`, `infinity` and `nan` in any case.
-/
def ofNumeral? (text : String) : Option Binary64 :=
  let (negative, chars) := splitSign text.toList
  if sameWord "inf" chars || sameWord "infinity" chars then
    some (.infinity negative)
  else if sameWord "nan" chars then some .nan
  else (Decimal.ofText? chars).map (·.nearest negative)

end Binary64

end Rulebook
