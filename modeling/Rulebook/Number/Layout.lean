import Rulebook.Number.Shortest

/-
  How the digits of a number are laid out: positional, or as a
  mantissa with an exponent.

  Key definitions include:
    * `Layout`
    * `Layout.positional`
    * `Layout.scientific`
    * `Layout.write`
-/

namespace Rulebook

/-
  The choices of a layout.
    * `tie` chooses between two equally near decimals;
    * `isPositional` tells by the exponent of the first digit
      whether a number is written without an exponent;
    * `wholeEnd` ends a positional number without a fraction;
    * `oneDigitEnd` follows a mantissa of one digit;
    * `mark` and `plus` come before a positive exponent, and
      `mark` before a negative one.
-/
structure Layout where
  tie : Tie
  isPositional : Int → Bool
  wholeEnd : List Char
  oneDigitEnd : List Char
  mark : Char
  plus : List Char

namespace Layout

/- Digits with the point in its place. -/
def positional
    (layout : Layout)
    (d : Digits) : List Char :=
  if d.point ≤ 0 then
    ['0', '.'] ++ List.replicate (-d.point).toNat '0' ++
      d.digits
  else if d.digits.length ≤ d.point.toNat then
    d.digits ++
      List.replicate
        (d.point.toNat - d.digits.length) '0' ++
      layout.wholeEnd
  else
    d.digits.take d.point.toNat ++ ['.'] ++
      d.digits.drop d.point.toNat

/- An exponent with its mark and its sign. -/
def exponent
    (layout : Layout)
    (e : Int) : List Char :=
  let sign := if e < 0 then ['-'] else layout.plus
  layout.mark :: sign ++ Nat.toDigits 10 e.natAbs

/- One digit, the point, the other digits, the exponent. -/
def scientific
    (layout : Layout)
    (d : Digits) : List Char :=
  let mantissa :=
    match d.digits with
    | first :: second :: rest => first :: '.' :: second :: rest
    | digits => digits ++ layout.oneDigitEnd
  mantissa ++ layout.exponent (d.point - 1)

/- The magnitude of a rank. -/
def magnitude
    (layout : Layout)
    (rank : Nat) : List Char :=
  if rank = 0 then layout.positional ⟨['0'], 1⟩
  else
    let d := Digits.shortest layout.tie rank
    if layout.isPositional (d.point - 1) then
      layout.positional d
    else
      layout.scientific d

/- The text of a finite number. -/
def write
    (layout : Layout)
    (negative : Bool)
    (rank : Nat) : String :=
  String.ofList
    ((if negative then ['-'] else []) ++
      layout.magnitude rank)

end Layout

end Rulebook
