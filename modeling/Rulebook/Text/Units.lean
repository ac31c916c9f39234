/-
  The order of texts by their UTF-16 code units.  A character
  above U+FFFF is a pair of surrogates, which lie below U+E000.

  Key definitions include:
    * `Units.ofChar`
    * `Units.ofText`
    * `Units.compareLists`
    * `Units.compareTexts`
-/

namespace Rulebook.Units

/- The code units of a character. -/
def ofChar (c : Char) : List Nat :=
  if c.toNat < 0x10000 then [c.toNat]
  else
    [0xD800 + (c.toNat - 0x10000) / 0x400,
     0xDC00 + (c.toNat - 0x10000) % 0x400]

/- The code units of a text. -/
def ofText (text : String) : List Nat :=
  text.toList.flatMap ofChar

/-
  Lists of numbers in the order of a dictionary: the first
  difference decides, and a list comes before its extensions.
-/
def compareLists : List Nat → List Nat → Ordering
  | [], [] => .eq
  | [], _ :: _ => .lt
  | _ :: _, [] => .gt
  | a :: as, b :: bs =>
      if a < b then .lt
      else if b < a then .gt
      else compareLists as bs

/- Texts in the order of their code units. -/
def compareTexts (a b : String) : Ordering :=
  compareLists (ofText a) (ofText b)

end Rulebook.Units
