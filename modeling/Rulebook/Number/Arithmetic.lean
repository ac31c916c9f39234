import Rulebook.Number.Rounding

/-
  Arithmetic: each operation takes the exact result and rounds
  it once.

  Key definitions include:
    * `Binary64.neg`
    * `Binary64.add`
    * `Binary64.sub`
    * `Binary64.mul`
    * `Binary64.div`
-/

namespace Rulebook.Binary64

/- The number with the other sign. -/
def neg : Binary64 → Binary64
  | .nan => .nan
  | .infinity negative => .infinity !negative
  | .finite negative rank => .finite (!negative) rank

/-
  The sum.  An exact zero is negative only as the sum of two
  negative zeros.
-/
def add : Binary64 → Binary64 → Binary64
  | .nan, _ => .nan
  | _, .nan => .nan
  | .infinity a, .infinity b =>
      if a = b then .infinity a else .nan
  | .infinity a, .finite _ _ => .infinity a
  | .finite _ _, .infinity b => .infinity b
  | .finite a r, .finite b s =>
      let sum := signed a (units r) + signed b (units s)
      if sum = 0 then zero (a && b)
      else nearest (sum < 0) sum.natAbs 1

/- The difference. -/
def sub (x y : Binary64) : Binary64 :=
  add x (neg y)

/- The product. -/
def mul : Binary64 → Binary64 → Binary64
  | .nan, _ => .nan
  | _, .nan => .nan
  | .infinity a, .infinity b => .infinity (a != b)
  | .infinity a, .finite b s =>
      if s.val = 0 then .nan else .infinity (a != b)
  | .finite a r, .infinity b =>
      if r.val = 0 then .nan else .infinity (a != b)
  | .finite a r, .finite b s =>
      nearest (a != b) (units r * units s) unitsOfOne

/-
  The quotient.  A division by zero gives an infinity, or NaN
  where the dividend is zero as well.
-/
def div : Binary64 → Binary64 → Binary64
  | .nan, _ => .nan
  | _, .nan => .nan
  | .infinity _, .infinity _ => .nan
  | .infinity a, .finite b _ => .infinity (a != b)
  | .finite a _, .infinity b => zero (a != b)
  | .finite a r, .finite b s =>
      if s.val = 0 then
        if r.val = 0 then .nan else .infinity (a != b)
      else
        nearest (a != b) (units r * unitsOfOne) (units s)

end Rulebook.Binary64
