import Rulebook.Number.Literal
import Rulebook.Text.Units
import Rulebook.Value.Text

/-
  Values taken as truth values, as numbers, and as members of
  one order.  None of these can fail, so neither can an
  expression on values that it was not made for.

  Key definitions include:
    * `Value.isTruthy`
    * `Value.toNumber`
    * `Value.compare`
-/

namespace Rulebook.Value

/-
  What counts as true: neither null nor false, nor a zero, nor
  the empty string.
-/
def isTruthy : Value → Bool
  | .null => false
  | .boolean b => b
  | .number n => !n.value.isZero
  | .string s => s != ""
  | .mapping _ => true

/-
  The number that a value stands for.  A string stands for the
  number that it is a literal of; whatever has no number is
  zero.
-/
def toNumber : Value → Binary64
  | .null => .zero false
  | .boolean b => if b then .one else .zero false
  | .number n => n.value
  | .string s => (Binary64.ofLiteral? s).getD (.zero false)
  | .mapping _ => .zero false

/- False comes before true. -/
def compareBooleans : Bool → Bool → Ordering
  | false, true => .lt
  | true, false => .gt
  | _, _ => .eq

/-
  Three-way comparison.  Null comes first.  If either side is a
  number, both are compared as numbers; two strings by their
  code units, two booleans as such, and any other pair by its
  texts.
-/
def compare : Value → Value → Ordering
  | .null, .null => .eq
  | .null, _ => .lt
  | _, .null => .gt
  | .number a, b => a.value.compare b.toNumber
  | a, .number b => a.toNumber.compare b.value
  | .string a, .string b => Units.compareTexts a b
  | .boolean a, .boolean b => compareBooleans a b
  | a, b => Units.compareTexts a.text b.text

end Rulebook.Value
