import Rulebook.Number.Decimal
import Rulebook.Text.Trim
import Rulebook.Unicode.Digit

/-
  Floating-point literals in texts.  A text is first held
  against the pattern of a literal, whose digits are those of
  any script, and then read as a numeral, whose digits are the
  ten of ASCII.

  Key definitions include:
    * `Literal.afterDecimal?`
    * `Literal.isLiteral`
    * `Binary64.ofLiteral?`
-/

namespace Rulebook

------------------------------------------------------------
-- The Pattern
------------------------------------------------------------

namespace Literal

open Unicode (isDecimalDigit)

/- Characters up to the blank, controls among them. -/
def isPadding (c : Char) : Bool :=
  c.toNat ≤ 0x20

/- A letter that may end a literal and says its width. -/
def isWidthLetter (c : Char) : Bool :=
  c = 'f' || c = 'F' || c = 'd' || c = 'D'

section

/- The class of characters that count as digits. -/
variable (isDigit : Char → Bool)

/-
  What follows the digits that a literal starts with, and the
  point before, among or behind them.  There is at least one
  digit.
-/
def afterSignificand?
    (chars : List Char) : Option (List Char) :=
  let whole := chars.takeWhile isDigit
  match chars.dropWhile isDigit with
  | '.' :: part =>
      if whole.isEmpty && (part.takeWhile isDigit).isEmpty then
        none
      else
        some (part.dropWhile isDigit)
  | rest => if whole.isEmpty then none else some rest

/- What follows the exponent, or all where there is none. -/
def afterExponent? : List Char → Option (List Char)
  | [] => some []
  | c :: chars =>
      if c = 'e' || c = 'E' then
        let digits := (Binary64.splitSign chars).2
        if (digits.takeWhile isDigit).isEmpty then none
        else some (digits.dropWhile isDigit)
      else
        some (c :: chars)

/- What follows a significand and its exponent. -/
def afterDecimal?
    (chars : List Char) : Option (List Char) :=
  (afterSignificand? isDigit chars).bind
    (afterExponent? isDigit)

end

/- Nothing, or one width letter. -/
def isWidth : List Char → Bool
  | [] => true
  | [c] => isWidthLetter c
  | _ => false

/-
  An optional sign, and one of the words `NaN` and `Infinity`,
  or a decimal that a width letter may follow.
-/
def isLiteral (chars : List Char) : Bool :=
  let body := (Binary64.splitSign chars).2
  body == "NaN".toList || body == "Infinity".toList ||
    (afterDecimal? isDecimalDigit body).any isWidth

/- The text without the width letters at its end. -/
def withoutWidth (chars : List Char) : List Char :=
  (chars.reverse.dropWhile isWidthLetter).reverse

end Literal

------------------------------------------------------------
-- Numbers Of Literals
------------------------------------------------------------

/-
  The number of a literal.  Padding around it does not count,
  and neither does its width.
-/
def Binary64.ofLiteral? (text : String) : Option Binary64 :=
  let chars := stripEnds Literal.isPadding text.toList
  if Literal.isLiteral chars then
    ofNumeral? (String.ofList (Literal.withoutWidth chars))
  else
    none

end Rulebook
