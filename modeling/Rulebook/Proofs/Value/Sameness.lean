import Rulebook.Proofs.Text.Units
import Rulebook.Proofs.Value.Fields

/-
  Values that are equal up to how their numbers were written.
  Equal environments give every expression equal values, unless
  it orders mappings: these are ordered by their texts, and the
  text of a number shows how it was written.

  Key definitions include:
    * `Value.plain`
    * `Value.orderedByFields`
    * `Expr.ordersFields`

  Main results:
    * `Value.same_iff`
    * `Environment.read_plain`
    * `Value.compare_of_same`
    * `BinaryOp.apply_plain`
    * `Expr.eval_of_same`
    * `Expr.eval_tells_literals_apart`
-/

namespace Rulebook

------------------------------------------------------------
-- Plain Values
------------------------------------------------------------

mutual

/- A value, as if all its numbers had been computed. -/
def Value.plain : Value → Value
  | .null => .null
  | .boolean b => .boolean b
  | .number n => .computed n.value
  | .string s => .string s
  | .mapping fields => .mapping fields.plain

/- An environment, as if all its numbers had been computed. -/
def Environment.plain : Environment → Environment
  | .empty => .empty
  | .field key value rest =>
      .field key value.plain rest.plain

end

/- Numbers are equal if their values are. -/
theorem Number.beq_iff
    {n n' : Number} :
    (n == n') = true ↔ n.value = n'.value := by
  change (n.value == n'.value) = true ↔ n.value = n'.value
  exact beq_iff_eq

mutual

/- Values are equal if they are the same as plain values. -/
theorem Value.same_iff (a b : Value) :
    a.same b = true ↔ a.plain = b.plain := by
  cases a <;> cases b <;>
    simp only [Value.same, Value.plain, Value.computed,
      Number.computed, Value.boolean.injEq,
      Value.number.injEq, Number.mk.injEq, Value.string.injEq,
      Value.mapping.injEq, beq_iff_eq, and_true, reduceCtorEq,
      Bool.false_eq_true]
  case number.number n n' => exact Number.beq_iff
  case mapping.mapping fields fields' =>
      exact Environment.same_iff fields fields'

/- So are environments. -/
theorem Environment.same_iff (env env' : Environment) :
    env.same env' = true ↔ env.plain = env'.plain := by
  cases env <;> cases env' <;>
    simp only [Environment.same, Environment.plain,
      Environment.field.injEq, Bool.and_eq_true, beq_iff_eq,
      and_assoc, reduceCtorEq, Bool.false_eq_true]
  case field.field key value rest key' value' rest' =>
      rw [Value.same_iff value value',
        Environment.same_iff rest rest']

end

------------------------------------------------------------
-- Reading
------------------------------------------------------------

/- The fields of a plain value are plain. -/
theorem Value.fields_plain (v : Value) :
    v.plain.fields = v.fields.plain := by
  cases v <;> rfl

namespace Environment

variable {env : Environment}

/- What is found in a plain environment is plain. -/
theorem find_plain
    {key : String} :
    env.plain.find key = (env.find key).plain := by
  fun_induction find key env with
  | case1 => rfl
  | case2 value rest => simp [plain, find]
  | case3 first value rest hDiffers ih =>
      simp only [plain, find, if_neg hDiffers, ih]

/- So is what is read there at a path. -/
theorem read_plain
    {p : List String} :
    read p env.plain = (read p env).plain := by
  induction p generalizing env with
  | nil => rfl
  | cons key p ih =>
      by_cases hLast : p = []
      · subst hLast
        exact find_plain
      · rw [read_cons hLast, read_cons hLast, find_plain,
          Value.fields_plain, ih]

end Environment

------------------------------------------------------------
-- Order
------------------------------------------------------------

/- A number neither comes before nor behind itself. -/
theorem Binary64.compare_self (x : Binary64) :
    x.compare x = .eq := by
  simp [compare]

namespace Value

variable {a b a' b' : Value}

/- A boolean comes before every mapping. -/
theorem compare_boolean_mapping
    (b : Bool)
    (fields : Environment) :
    (boolean b).compare (.mapping fields) = .lt := by
  have hBrace : Units.ofText "\x7b" = [0x7B] := by
    decide
  change
    Units.compareTexts (boolean b).text
      (inBraces fields.fieldTexts) = .lt
  rw [inBraces, String.append_assoc, Units.compareTexts,
    Units.ofText_append, hBrace]
  cases b with
  | false => rfl
  | true => rfl

/- A mapping comes behind every boolean. -/
theorem compare_mapping_boolean
    (fields : Environment)
    (b : Bool) :
    (mapping fields).compare (.boolean b) = .gt := by
  have hSwap :
      ((boolean b).compare (.mapping fields)).swap =
        (mapping fields).compare (.boolean b) :=
    Units.compareTexts_swap _ _
  rw [← hSwap, compare_boolean_mapping]
  rfl

/-
  Values whose order depends on the texts of fields.  A mapping
  and a boolean are not among them, since a boolean comes first
  whatever the fields are.
-/
def orderedByFields : Value → Value → Bool
  | .mapping _, .mapping _ => true
  | .mapping _, .string _ => true
  | .string _, .mapping _ => true
  | _, _ => false

theorem orderedByFields_plain :
    a.plain.orderedByFields b.plain =
      a.orderedByFields b := by
  cases a <;> cases b <;> rfl

/- Plain values are as true as others. -/
theorem isTruthy_congr
    (h : a.plain = a'.plain) :
    a.isTruthy = a'.isTruthy := by
  have hPlain : ∀ v : Value, v.plain.isTruthy = v.isTruthy := by
    intro v
    cases v <;> rfl
  rw [← hPlain a, h, hPlain]

/- They stand for the same numbers. -/
theorem toNumber_congr
    (h : a.plain = a'.plain) :
    a.toNumber = a'.toNumber := by
  have hPlain : ∀ v : Value, v.plain.toNumber = v.toNumber := by
    intro v
    cases v <;> rfl
  rw [← hPlain a, h, hPlain]

/- They are equal to the same values. -/
theorem beq_congr
    (hA : a.plain = a'.plain)
    (hB : b.plain = b'.plain) :
    (a == b) = (a' == b') := by
  rw [Bool.eq_iff_iff]
  calc
    (a == b) = true
    _ ↔ a.plain = b.plain := same_iff a b
    _ ↔ a'.plain = b'.plain := by rw [hA, hB]
    _ ↔ (a' == b') = true := (same_iff a' b').symm

/- All other values are ordered like plain ones. -/
theorem compare_plain
    (h : a.orderedByFields b = false) :
    a.plain.compare b.plain = a.compare b := by
  cases a <;> cases b <;> try rfl
  case boolean.mapping b fields =>
      rw [compare_boolean_mapping]
      exact compare_boolean_mapping b fields.plain
  case mapping.boolean fields b =>
      rw [compare_mapping_boolean]
      exact compare_mapping_boolean fields.plain b
  case string.mapping s fields => cases h
  case mapping.string fields s => cases h
  case mapping.mapping fields fields' => cases h

/- Their order is the same for equal values. -/
theorem compare_congr
    (hA : a.plain = a'.plain)
    (hB : b.plain = b'.plain)
    (h : a.orderedByFields b = false) :
    a.compare b = a'.compare b' := by
  have h' : a'.orderedByFields b' = false := by
    rw [← orderedByFields_plain, ← hA, ← hB,
      orderedByFields_plain, h]
  rw [← compare_plain h, ← compare_plain h', hA, hB]

/- No value comes before or behind itself. -/
theorem compare_self (v : Value) :
    v.compare v = .eq := by
  cases v with
  | null => rfl
  | boolean b =>
      cases b with
      | false => rfl
      | true => rfl
  | number n => exact Binary64.compare_self n.value
  | string s => exact Units.compareTexts_self s
  | mapping fields => exact Units.compareTexts_self _

/- Equal values are not ordered, unless by their fields. -/
theorem compare_of_same
    (hSame : (a == b) = true)
    (h : a.orderedByFields b = false) :
    a.compare b = .eq := by
  have hPlain : a.plain = b.plain := (same_iff a b).mp hSame
  rw [compare_congr hPlain rfl h, compare_self]

end Value

------------------------------------------------------------
-- Operators
------------------------------------------------------------

/- The operators that put values in an order. -/
def BinaryOp.isOrder : BinaryOp → Bool
  | .less => true
  | .greater => true
  | .lessEqual => true
  | .greaterEqual => true
  | _ => false

section

variable {a b a' b' : Value}

/- An operator gives the same for equal operands. -/
theorem UnaryOp.apply_congr
    (op : UnaryOp)
    (h : a.plain = a'.plain) :
    op.apply a = op.apply a' := by
  cases op with
  | not => simp only [apply, Value.isTruthy_congr h]
  | negate => simp only [apply, Value.toNumber_congr h]

/- So it does for two, if it does not order their fields. -/
theorem BinaryOp.apply_congr
    (op : BinaryOp)
    (hA : a.plain = a'.plain)
    (hB : b.plain = b'.plain)
    (h : (op.isOrder && a.orderedByFields b) = false) :
    op.apply a b = op.apply a' b' := by
  cases op with
  | equal => simp only [apply, Value.beq_congr hA hB]
  | notEqual => simp only [apply, bne, Value.beq_congr hA hB]
  | less | greater | lessEqual | greaterEqual =>
      have hOrder : a.orderedByFields b = false := h
      simp only [apply, Value.compare_congr hA hB hOrder]
  | add | subtract | multiply | divide =>
      simp only [apply, Value.toNumber_congr hA,
        Value.toNumber_congr hB]
  | and | or =>
      simp only [apply, Value.isTruthy_congr hA,
        Value.isTruthy_congr hB]

end

------------------------------------------------------------
-- Expressions
------------------------------------------------------------

namespace Expr

/- Some operator of an expression orders fields by texts. -/
def ordersFields (env : Environment) : Expr → Bool
  | .literal _ => false
  | .path _ => false
  | .unary _ operand => operand.ordersFields env
  | .binary op left right =>
      left.ordersFields env || right.ordersFields env ||
        (op.isOrder &&
          (left.eval env).orderedByFields (right.eval env))

/-
  An expression that orders no fields has equal values in equal
  environments, however their numbers were written.
-/
theorem eval_of_same
    {e : Expr}
    {env env' : Environment}
    (hSame : (env == env') = true)
    (hOrder : e.ordersFields env = false) :
    (e.eval env == e.eval env') = true := by
  have hPlain : env.plain = env'.plain :=
    (Environment.same_iff env env').mp hSame
  apply (Value.same_iff _ _).mpr
  induction e with
  | literal value => rfl
  | path p =>
      simp only [eval, Environment.get]
      rw [← Environment.read_plain, hPlain,
        Environment.read_plain]
  | unary op operand ih =>
      rw [eval, eval, op.apply_congr (ih hOrder)]
  | binary op left right ihLeft ihRight =>
      simp only [ordersFields, Bool.or_eq_false_iff] at hOrder
      rcases hOrder with ⟨⟨hLeft, hRight⟩, hHere⟩
      rw [eval, eval,
        op.apply_congr (ihLeft hLeft) (ihRight hRight) hHere]

/- Two mappings with the number one, written whole or not. -/
def ones (first second : Bool) : Environment :=
  .field "a"
    (.mapping (.field "x" (.number ⟨.one, first⟩) .empty))
    (.field "b"
      (.mapping (.field "x" (.number ⟨.one, second⟩) .empty))
      .empty)

/- Where the mappings are. -/
def firstOne : FieldPath :=
  ⟨["a"], by decide, by decide⟩

def secondOne : FieldPath :=
  ⟨["b"], by decide, by decide⟩

/- The mappings are compared, and ordered with a number. -/
def onesAlike : Expr :=
  .binary .and
    (.binary .equal (.path firstOne) (.path secondOne))
    (.binary .less (.path firstOne) (.literal (.computed .one)))

/- That orders no fields. -/
theorem eval_of_same_ones :
    (ones false true == ones true true) = true ∧
      onesAlike.ordersFields (ones false true) = false ∧
      (onesAlike.eval (ones false true) ==
          onesAlike.eval (ones true true)) = true :=
  ⟨by decide +kernel, by decide +kernel,
    eval_of_same (by decide +kernel) (by decide +kernel)⟩

/-
  An expression that orders fields can tell equal environments
  apart: of two equal mappings one comes before the other, since
  the number in it was not written as a whole number.
-/
theorem eval_tells_literals_apart :
    ∃ (e : Expr) (env env' : Environment) (p q : FieldPath),
      (env == env') = true ∧
        (e.eval env == e.eval env') = false ∧
        (env.get p == env.get q) = true ∧
        (env.get p).compare (env.get q) = .lt :=
  ⟨.binary .less (.path firstOne) (.path secondOne),
    ones false true, ones true true, firstOne, secondOne,
    by decide +kernel, by decide +kernel, by decide +kernel,
    by decide +kernel⟩

end Expr

end Rulebook
