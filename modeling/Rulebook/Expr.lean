import Rulebook.Text.Shown
import Rulebook.Value.Coercion

/-
  Expressions: their trees, their texts and their values.

  Key definitions include:
    * `UnaryOp`
    * `BinaryOp`
    * `Expr`
    * `Expr.text`
    * `Expr.eval`
-/

namespace Rulebook

------------------------------------------------------------
-- Operators
------------------------------------------------------------

/- Operators before their operand. -/
inductive UnaryOp where
  | not
  | negate
deriving DecidableEq, Repr

/- Operators between two operands. -/
inductive BinaryOp where
  | equal
  | notEqual
  | less
  | greater
  | lessEqual
  | greaterEqual
  | add
  | subtract
  | multiply
  | divide
  | and
  | or
deriving DecidableEq, Repr

namespace UnaryOp

/- The operator as it stands before an operand. -/
def text : UnaryOp → String
  | .not => "not "
  | .negate => "-"

/- The operator on a value. -/
def apply : UnaryOp → Value → Value
  | .not, v => .boolean !v.isTruthy
  | .negate, v => .computed v.toNumber.neg

end UnaryOp

namespace BinaryOp

/- All operators between two operands. -/
def all : List BinaryOp :=
  [.equal, .notEqual, .less, .greater, .lessEqual,
   .greaterEqual, .add, .subtract, .multiply, .divide, .and,
   .or]

/- The sign or word of an operator. -/
def symbol : BinaryOp → String
  | .equal => "=="
  | .notEqual => "!="
  | .less => "<"
  | .greater => ">"
  | .lessEqual => "<="
  | .greaterEqual => ">="
  | .add => "+"
  | .subtract => "-"
  | .multiply => "*"
  | .divide => "/"
  | .and => "and"
  | .or => "or"

/- The operator on two values. -/
def apply : BinaryOp → Value → Value → Value
  | .equal, a, b => .boolean (a == b)
  | .notEqual, a, b => .boolean (a != b)
  | .less, a, b => .boolean (a.compare b).isLT
  | .greater, a, b => .boolean (a.compare b).isGT
  | .lessEqual, a, b => .boolean (a.compare b).isLE
  | .greaterEqual, a, b => .boolean (a.compare b).isGE
  | .add, a, b => .computed (a.toNumber.add b.toNumber)
  | .subtract, a, b => .computed (a.toNumber.sub b.toNumber)
  | .multiply, a, b => .computed (a.toNumber.mul b.toNumber)
  | .divide, a, b => .computed (a.toNumber.div b.toNumber)
  | .and, a, b => .boolean (a.isTruthy && b.isTruthy)
  | .or, a, b => .boolean (a.isTruthy || b.isTruthy)

end BinaryOp

------------------------------------------------------------
-- Expressions
------------------------------------------------------------

inductive Expr where
  | literal (value : Value)
  | path (p : FieldPath)
  | unary (op : UnaryOp) (operand : Expr)
  | binary (op : BinaryOp) (left right : Expr)

namespace Expr

/-
  The text of an expression, with parentheses around every
  operation.
-/
def text : Expr → String
  | .literal (.string s) => Shown.quoted s
  | .literal value => value.text
  | .path p => p.text
  | .unary op operand =>
      "(" ++ op.text ++ operand.text ++ ")"
  | .binary op left right =>
      "(" ++ left.text ++ " " ++ op.symbol ++ " " ++
        right.text ++ ")"

/- The value of an expression in an environment. -/
def eval (env : Environment) : Expr → Value
  | .literal value => value
  | .path p => env.get p
  | .unary op operand => op.apply (operand.eval env)
  | .binary op left right =>
      op.apply (left.eval env) (right.eval env)

end Expr

end Rulebook
