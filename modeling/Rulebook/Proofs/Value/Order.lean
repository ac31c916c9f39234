import Rulebook.Proofs.Value.Sameness

/-
  The order of values.  Comparison the other way round gives the
  reverse for any two values, so the four operators that order
  agree with one another.  The booleans, the numbers and the
  texts are each in one line with null in front, since they are
  ordered by keys.

  Key definitions include:
    * `Value.Family`
    * `Value.Member`
    * `Value.Linear`
    * `Value.KeyedBy`

  Main results:
    * `Binary64.key_injective`
    * `Value.compare_swap`
    * `Value.KeyedBy.linear`
    * `Value.linear_member`
    * `Value.order_laws`
-/

namespace Rulebook

------------------------------------------------------------
-- Numbers
------------------------------------------------------------

namespace Binary64

/- Numbers are compared as their keys are. -/
theorem compare_eq_compare_key (x y : Binary64) :
    x.compare y = Ord.compare x.key y.key :=
  (Int.compare_eq_ite_lt x.key y.key).symm

theorem compare_swap (x y : Binary64) :
    (x.compare y).swap = y.compare x := by
  rw [compare_eq_compare_key, compare_eq_compare_key]
  exact Std.OrientedOrd.eq_swap.symm

/- The number with a key. -/
def ofKey (k : Int) : Binary64 :=
  if k = magnitudes + 1 then .nan
  else if 0 ≤ k then ofRank false k.toNat
  else ofRank true (-(k + 1)).toNat

theorem ofKey_key (x : Binary64) : ofKey x.key = x := by
  cases x with
  | nan => rfl
  | infinity negative => cases negative <;> rfl
  | finite negative rank =>
      have hRank := rank.isLt
      cases negative with
      | false =>
          have hNumber :
              ((rank : Nat) : Int) ≠ magnitudes + 1 := by
            omega
          rw [key, ofKey, if_neg hNumber,
            if_pos (Int.natCast_nonneg _), Int.toNat_natCast,
            ofRank, dif_pos hRank]
      | true =>
          have hNumber :
              -(((rank : Nat) : Int) + 1) ≠
                magnitudes + 1 := by
            omega
          have hBelow : ¬ 0 ≤ -(((rank : Nat) : Int) + 1) := by
            omega
          have hRankBack :
              (-(-(((rank : Nat) : Int) + 1) + 1)).toNat =
                rank := by
            omega
          rw [key, ofKey, if_neg hNumber, if_neg hBelow,
            hRankBack, ofRank, dif_pos hRank]

/- Numbers with one key are the same. -/
theorem key_injective : Function.Injective key :=
  Function.LeftInverse.injective ofKey_key

/- NaN comes behind every other number. -/
theorem compare_nan
    {x : Binary64}
    (h : x ≠ .nan) : x.compare .nan = .lt := by
  refine if_pos ?_
  cases x with
  | nan => exact (h rfl).elim
  | infinity negative => cases negative <;> decide
  | finite negative rank =>
      have hRank := rank.isLt
      cases negative <;> simp only [key] <;> omega

end Binary64

namespace Value

------------------------------------------------------------
-- The Other Way Round
------------------------------------------------------------

/- False and true are compared as booleans are. -/
theorem compareBooleans_eq_compare (b c : Bool) :
    compareBooleans b c = Ord.compare b c := by
  cases b <;> cases c <;> rfl

theorem compareBooleans_swap (b c : Bool) :
    (compareBooleans b c).swap = compareBooleans c b := by
  cases b <;> cases c <;> rfl

/-
  Comparison the other way round gives the reverse.  Which of
  the ways to compare is taken does not depend on the side.
-/
theorem compare_swap (a b : Value) :
    (a.compare b).swap = b.compare a := by
  cases a with
  | null => cases b <;> rfl
  | number n =>
      cases b with
      | null => rfl
      | _ => exact Binary64.compare_swap n.value _
  | string s =>
      cases b with
      | null => rfl
      | number m => exact Binary64.compare_swap _ m.value
      | _ => exact Units.compareTexts_swap s _
  | boolean c =>
      cases b with
      | null => rfl
      | number m => exact Binary64.compare_swap _ m.value
      | boolean d => exact compareBooleans_swap c d
      | _ => exact Units.compareTexts_swap _ _
  | mapping fields =>
      cases b with
      | null => rfl
      | number m => exact Binary64.compare_swap _ m.value
      | _ => exact Units.compareTexts_swap _ _

------------------------------------------------------------
-- Families
------------------------------------------------------------

/- The kinds of values that have an order of their own. -/
inductive Family where
  | booleans
  | numbers
  | strings

/- The values of a family.  Null belongs to each of them. -/
inductive Member : Family → Value → Prop where
  | null (family : Family) : Member family .null
  | boolean (b : Bool) : Member .booleans (.boolean b)
  | number (n : Number) : Member .numbers (.number n)
  | string (s : String) : Member .strings (.string s)

/-
  Comparison puts some values in one line, with null in front,
  and finds just those alike that are equal.
-/
structure Linear (inFamily : Value → Prop) : Prop where
  null : inFamily .null
  least :
    ∀ a, inFamily a → (a == .null) = false →
      Value.null.compare a = .lt
  total :
    ∀ a b, inFamily a → inFamily b →
      (a.compare b).isLE = true ∨ (b.compare a).isLE = true
  trans :
    ∀ a b c, inFamily a → inFamily b → inFamily c →
      (a.compare b).isLE = true →
      (b.compare c).isLE = true →
        (a.compare c).isLE = true
  eq_iff :
    ∀ a b, inFamily a → inFamily b →
      (a.compare b = .eq ↔ (a == b) = true)

/-
  Some values are compared as their keys are, and have the same
  key if they are equal.
-/
structure KeyedBy
    {κ : Type}
    [Ord κ]
    (inFamily : Value → Prop)
    (key : Value → κ) : Prop where
  compare :
    ∀ a b, inFamily a → inFamily b →
      a.compare b = Ord.compare (key a) (key b)
  same :
    ∀ a b, inFamily a → inFamily b →
      ((a == b) = true ↔ key a = key b)

/- Null comes before every other value. -/
theorem compare_null_left
    {a : Value}
    (h : (a == .null) = false) :
    Value.null.compare a = .lt := by
  cases a with
  | null => cases h
  | _ => rfl

/- Values with keys in a linear order are in one line. -/
theorem KeyedBy.linear
    {κ : Type}
    [Ord κ]
    [Std.TransOrd κ]
    [Std.LawfulEqOrd κ]
    {inFamily : Value → Prop}
    {key : Value → κ}
    (h : KeyedBy inFamily key)
    (hNull : inFamily .null) : Linear inFamily where
  null := hNull
  least a hA hOther := compare_null_left hOther
  total a b hA hB := by
    rw [← compare_swap a b, Ordering.isLE_swap]
    cases a.compare b <;> simp
  trans a b c hA hB hC hAB hBC := by
    rw [h.compare a b hA hB] at hAB
    rw [h.compare b c hB hC] at hBC
    rw [h.compare a c hA hC]
    exact Std.TransOrd.isLE_trans hAB hBC
  eq_iff a b hA hB := by
    rw [h.compare a b hA hB, h.same a b hA hB]
    exact Std.compare_eq_iff_eq

------------------------------------------------------------
-- Keys
------------------------------------------------------------

/- The key of a boolean. -/
def booleanKey : Value → Option Bool
  | .boolean b => some b
  | _ => none

/- The key of a number is its place among all numbers. -/
def numberKey : Value → Option Int
  | .number n => some n.value.key
  | _ => none

/- The key of a string is the list of its units. -/
def stringKey : Value → Option (List Nat)
  | .string s => some (Units.ofText s)
  | _ => none

theorem keyedBy_booleanKey :
    KeyedBy (Member .booleans) booleanKey where
  compare a b hA hB := by
    cases hA with
    | null => cases hB <;> rfl
    | boolean b =>
        cases hB with
        | null => rfl
        | boolean c => exact compareBooleans_eq_compare b c
  same a b hA hB := by
    refine (same_iff a b).trans ?_
    cases hA <;> cases hB <;> simp [plain, booleanKey]

theorem keyedBy_numberKey :
    KeyedBy (Member .numbers) numberKey where
  compare a b hA hB := by
    cases hA with
    | null => cases hB <;> rfl
    | number n =>
        cases hB with
        | null => rfl
        | number m =>
            exact Binary64.compare_eq_compare_key _ _
  same a b hA hB := by
    refine (same_iff a b).trans ?_
    cases hA <;> cases hB <;>
      simp [plain, computed, Number.computed, numberKey,
        Binary64.key_injective.eq_iff]

theorem keyedBy_stringKey :
    KeyedBy (Member .strings) stringKey where
  compare a b hA hB := by
    cases hA with
    | null => cases hB <;> rfl
    | string s =>
        cases hB with
        | null => rfl
        | string t => exact Units.compareLists_eq_compare _ _
  same a b hA hB := by
    refine (same_iff a b).trans ?_
    cases hA <;> cases hB <;>
      simp [plain, stringKey, Units.ofText_inj]

/- Every family is in one line. -/
theorem linear_member (family : Family) :
    Linear (Member family) := by
  cases family with
  | booleans => exact keyedBy_booleanKey.linear (.null _)
  | numbers => exact keyedBy_numberKey.linear (.null _)
  | strings => exact keyedBy_stringKey.linear (.null _)

end Value

------------------------------------------------------------
-- Operators
------------------------------------------------------------

namespace Expr

variable {env : Environment}
variable {left right : Expr}

theorem eval_less_eq_greater :
    (binary .less left right).eval env =
      (binary .greater right left).eval env := by
  simp only [eval, BinaryOp.apply]
  rw [← Value.compare_swap (left.eval env),
    Ordering.isGT_swap]

theorem eval_lessEqual_eq_greaterEqual :
    (binary .lessEqual left right).eval env =
      (binary .greaterEqual right left).eval env := by
  simp only [eval, BinaryOp.apply]
  rw [← Value.compare_swap (left.eval env),
    Ordering.isGE_swap]

theorem eval_greaterEqual_eq_not_less :
    (binary .greaterEqual left right).eval env =
      (unary .not (binary .less left right)).eval env := by
  simp only [eval, BinaryOp.apply, UnaryOp.apply,
    Value.isTruthy]
  cases (left.eval env).compare (right.eval env) <;> rfl

theorem eval_lessEqual_eq_not_greater :
    (binary .lessEqual left right).eval env =
      (unary .not (binary .greater left right)).eval env := by
  simp only [eval, BinaryOp.apply, UnaryOp.apply,
    Value.isTruthy]
  cases (left.eval env).compare (right.eval env) <;> rfl

/- The three ways in which two expressions can be ordered. -/
def orders (left right : Expr) : List Expr :=
  [.binary .less left right,
   .binary .greater left right,
   .binary .and (.binary .lessEqual left right)
     (.binary .greaterEqual left right)]

/- Just one of them is true. -/
theorem countP_orders :
    (orders left right).countP
        (fun e => (e.eval env).isTruthy) = 1 := by
  cases h : (left.eval env).compare (right.eval env) <;>
    simp [orders, eval, BinaryOp.apply, Value.isTruthy, h]

end Expr

------------------------------------------------------------
-- Laws
------------------------------------------------------------

namespace Value

/-
  The laws of the order of values.  They hold of the operators
  on any operands; in a family the order is linear, with NaN
  behind all other numbers and the negative zero before the
  positive one.
-/
theorem order_laws :
    (∀ a b : Value, b.compare a = (a.compare b).swap) ∧
    (∀ (env : Environment) (left right : Expr),
      (Expr.binary .less left right).eval env =
          (Expr.binary .greater right left).eval env ∧
        (Expr.binary .lessEqual left right).eval env =
          (Expr.binary .greaterEqual right left).eval env ∧
        (Expr.binary .greaterEqual left right).eval env =
          (Expr.unary .not
            (.binary .less left right)).eval env ∧
        (Expr.binary .lessEqual left right).eval env =
          (Expr.unary .not
            (.binary .greater left right)).eval env ∧
        (Expr.orders left right).countP
            (fun e => (e.eval env).isTruthy) = 1) ∧
    (∀ family : Family, Linear (Member family)) ∧
    (∀ n m : Number,
      (n.value ≠ .nan → m.value = .nan →
          (number n).compare (.number m) = .lt) ∧
        (n.value = .zero true → m.value = .zero false →
          (number n).compare (.number m) = .lt)) := by
  refine
    ⟨fun a b => (compare_swap a b).symm, ?_, linear_member, ?_⟩
  · intro env left right
    exact
      ⟨Expr.eval_less_eq_greater,
        Expr.eval_lessEqual_eq_greaterEqual,
        Expr.eval_greaterEqual_eq_not_less,
        Expr.eval_lessEqual_eq_not_greater,
        Expr.countP_orders⟩
  · intro n m
    constructor
    · intro hN hM
      simp only [compare, toNumber, hM]
      exact Binary64.compare_nan hN
    · intro hN hM
      simp only [compare, toNumber, hN, hM]
      decide

/- The two zeros are apart, and NaN is the greatest number. -/
theorem order_laws_zeros :
    (number (.computed (.zero true))).compare
        (number (.computed (.zero false))) = .lt ∧
      (number (.computed (.infinity false))).compare
        (number (.computed .nan)) = .lt :=
  ⟨(order_laws.2.2.2 _ _).2 rfl rfl,
    (order_laws.2.2.2 _ _).1 (by decide) rfl⟩

end Value

end Rulebook
