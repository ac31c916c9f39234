import Rulebook.Expr
import Rulebook.Reading

/-
  Reading expressions.  Five levels of operators between two
  operands bind ever tighter; on each level operations group to
  the left.  Tighter than all of them are the operators before
  an operand, and the tightest are literals, paths, and
  expressions in parentheses.

  Key definitions include:
    * `Level`
    * `Level.operator?`
    * `Outcome`
    * `Expr.readLevel`
    * `Expr.reading`
    * `Expr.readingAll`
-/

namespace Rulebook

------------------------------------------------------------
-- Levels
------------------------------------------------------------

/- The levels of operators between two operands. -/
inductive Level where
  | or
  | and
  | comparison
  | additive
  | multiplicative
deriving DecidableEq, Repr

namespace Level

/- The level that binds the next tighter. -/
def tighter? : Level → Option Level
  | .or => some .and
  | .and => some .comparison
  | .comparison => some .additive
  | .additive => some .multiplicative
  | .multiplicative => none

/- The number of levels that bind tighter. -/
def height : Level → Nat
  | .or => 4
  | .and => 3
  | .comparison => 2
  | .additive => 1
  | .multiplicative => 0

theorem height_le (level : Level) :
    level.height ≤ 4 := by
  cases level <;> decide

theorem height_tighter
    {level next : Level}
    (h : level.tighter? = some next) :
    next.height < level.height := by
  cases level <;> cases h <;> decide

/- The operator of a level that a token stands for. -/
def operator? : Level → TokenKind → Option BinaryOp
  | .or, .keyword .or => some .or
  | .and, .keyword .and => some .and
  | .comparison, .symbol .equal => some .equal
  | .comparison, .symbol .notEqual => some .notEqual
  | .comparison, .symbol .greaterEqual => some .greaterEqual
  | .comparison, .symbol .lessEqual => some .lessEqual
  | .comparison, .symbol .greater => some .greater
  | .comparison, .symbol .less => some .less
  | .additive, .symbol .plus => some .add
  | .additive, .symbol .minus => some .subtract
  | .multiplicative, .symbol .star => some .multiply
  | .multiplicative, .symbol .slash => some .divide
  | _, _ => none

end Level

/- The operator before an operand that a token stands for. -/
def UnaryOp.ofKind? : TokenKind → Option UnaryOp
  | .keyword .not => some .not
  | .symbol .minus => some .negate
  | _ => none

/- The value of a literal of one token. -/
def Value.ofToken? (t : Token) : Option Value :=
  match t.kind with
  | .number => (Number.ofNumeral? t.lexeme).map .number
  | .string => some (.string t.lexeme)
  | .keyword .true => some (.boolean true)
  | .keyword .false => some (.boolean false)
  | .keyword .null => some .null
  | .keyword .undefined => some .null
  | _ => none

------------------------------------------------------------
-- Outcomes
------------------------------------------------------------

/-
  What reading an expression gives: the expression with fewer
  tokens left than a bound, or a refusal.
-/
inductive Outcome (bound : Nat) where
  | read
      (e : Expr)
      (rest : List Token)
      (shorter : rest.length < bound)
  | refused
      (refusal : Refusal)

namespace Outcome

/- The same outcome under a larger bound. -/
def widen
    {bound larger : Nat}
    (h : bound ≤ larger) : Outcome bound → Outcome larger
  | .read e rest shorter =>
      .read e rest (Nat.lt_of_lt_of_le shorter h)
  | .refused refusal => .refused refusal

/- The outcome with an operator before its expression. -/
def under
    {bound : Nat}
    (op : UnaryOp) : Outcome bound → Outcome bound
  | .read e rest shorter => .read (.unary op e) rest shorter
  | .refused refusal => .refused refusal

/- The outcome without its bound. -/
def result
    {bound : Nat} :
    Outcome bound → Except Refusal (Expr × List Token)
  | .read e rest _ => .ok (e, rest)
  | .refused refusal => .error refusal

@[simp]
theorem result_widen
    {bound larger : Nat}
    (h : bound ≤ larger)
    (outcome : Outcome bound) :
    (outcome.widen h).result = outcome.result := by
  cases outcome <;> rfl

@[simp]
theorem result_under
    {bound : Nat}
    (op : UnaryOp)
    (outcome : Outcome bound) :
    (outcome.under op).result =
      outcome.result.map fun r => (.unary op r.1, r.2) := by
  cases outcome <;> rfl

end Outcome

------------------------------------------------------------
-- Expressions
------------------------------------------------------------

namespace Expr

/-
  A literal other than a number that cannot be read, or a path.
  The token of such a number counts as taken.
-/
def readAtom
    (t : Token)
    (tokens : List Token) : Outcome (tokens.length + 1) :=
  match Value.ofToken? t with
  | some value =>
      .read (.literal value) tokens (Nat.lt_succ_self _)
  | none =>
      if t.kind = .number then
        .refused ⟨.numberLiteral, some t, tokens⟩
      else if t.kind = .identifier then
        match h : Reading.path (t :: tokens) with
        | .ok (p, rest) =>
            .read (.path p) rest
              (Reading.takesToken_path _ _ _ h)
        | .error refusal => .refused refusal
      else
        .refused (.ahead .expression (t :: tokens))

mutual

/- Operands and operators of a level, grouped to the left. -/
def readLevel
    (level : Level)
    (tokens : List Token) : Outcome tokens.length :=
  match readOperand level tokens with
  | .refused refusal => .refused refusal
  | .read left rest shorter =>
      (readChain level left rest).widen shorter
termination_by 12 * tokens.length + 2 * level.height + 3
decreasing_by
  · omega
  · have := level.height_le
    omega

/- An operand of a level. -/
def readOperand
    (level : Level)
    (tokens : List Token) : Outcome tokens.length :=
  match _ : level.tighter? with
  | some next => readLevel next tokens
  | none => readUnary tokens
termination_by 12 * tokens.length + 2 * level.height + 2
decreasing_by
  · have := Level.height_tighter ‹_›
    omega
  · omega

/- Further operators of a level with their right operands. -/
def readChain
    (level : Level)
    (left : Expr)
    (tokens : List Token) : Outcome (tokens.length + 1) :=
  match tokens with
  | [] => .read left [] (Nat.zero_lt_succ _)
  | t :: tokens =>
      match level.operator? t.kind with
      | none => .read left (t :: tokens) (Nat.lt_succ_self _)
      | some op =>
          match readOperand level tokens with
          | .refused refusal => .refused refusal
          | .read right rest shorter =>
              (readChain level (.binary op left right)
                rest).widen
                (Nat.le_succ_of_le (Nat.le_succ_of_le shorter))
termination_by 12 * tokens.length
decreasing_by
  · have := level.height_le
    simp only [List.length_cons]
    omega
  · simp only [List.length_cons]
    omega

/- Operators before an operand, and the operand. -/
def readUnary
    (tokens : List Token) : Outcome tokens.length :=
  match tokens with
  | [] => .refused (.ahead .expression [])
  | t :: tokens =>
      match UnaryOp.ofKind? t.kind with
      | some op =>
          ((readUnary tokens).under op).widen (Nat.le_succ _)
      | none => readPrimary t tokens
termination_by 12 * tokens.length + 1
decreasing_by
  · simp only [List.length_cons]
    omega
  · simp only [List.length_cons]
    omega

/- A literal, a path, or an expression in parentheses. -/
def readPrimary
    (t : Token)
    (tokens : List Token) : Outcome (tokens.length + 1) :=
  if t.kind = .symbol .leftParen then
    match readLevel .or tokens with
    | .refused refusal => .refused refusal
    | .read _ [] _ => .refused (.ahead .closingParen [])
    | .read e (close :: rest) shorter =>
        if close.kind = .symbol .rightParen then
          .read e rest
            (Nat.lt_succ_of_le
              (Nat.le_of_succ_le (Nat.le_of_lt shorter)))
        else
          .refused (.ahead .closingParen (close :: rest))
  else
    readAtom t tokens
termination_by 12 * (tokens.length + 1)
decreasing_by
  · simp only [Level.height]
    omega

end

/- An expression. -/
def reading : Reading Expr :=
  fun tokens => (readLevel .or tokens).result

/- An expression with no token behind it. -/
def readingAll : Reading Expr := do
  let e ← reading
  Reading.finish .endOfExpression
  pure e

end Expr

end Rulebook
