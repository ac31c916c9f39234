import Rulebook.Expr.Reading

/-
  What each function of the reader of expressions does, without
  the bounds that make it end.  Whatever is proved of readings
  is proved from these equations.

  Key lemmas include:
    * `Expr.result_readLevel`
    * `Expr.result_readChain_operator`
    * `Expr.result_readUnary_primary`
    * `Expr.result_readPrimary_paren`
    * `Expr.result_readAtom_path`
-/

namespace Rulebook.Expr

------------------------------------------------------------
-- Levels
------------------------------------------------------------

variable {level next : Level}
variable {left : Expr}
variable {t : Token}
variable {tokens : List Token}

theorem result_readLevel :
    (readLevel level tokens).result =
      (readOperand level tokens).result.bind fun r =>
        (readChain level r.1 r.2).result := by
  rw [readLevel]
  cases readOperand level tokens with
  | refused refusal => rfl
  | read e rest shorter => exact Outcome.result_widen _ _

theorem result_readOperand_level
    (h : level.tighter? = some next) :
    (readOperand level tokens).result =
      (readLevel next tokens).result := by
  rw [readOperand]
  split
  · simp_all
  · simp_all

theorem result_readOperand_unary
    (h : level.tighter? = none) :
    (readOperand level tokens).result =
      (readUnary tokens).result := by
  rw [readOperand]
  split
  · simp_all
  · rfl

theorem result_readChain_nil :
    (readChain level left []).result = .ok (left, []) := by
  rw [readChain]
  rfl

theorem result_readChain_stop
    (h : level.operator? t.kind = none) :
    (readChain level left (t :: tokens)).result =
      .ok (left, t :: tokens) := by
  rw [readChain]
  split
  · rfl
  · simp_all

theorem result_readChain_operator
    {op : BinaryOp}
    (h : level.operator? t.kind = some op) :
    (readChain level left (t :: tokens)).result =
      (readOperand level tokens).result.bind fun r =>
        (readChain level (.binary op left r.1) r.2).result := by
  rw [readChain]
  split
  · simp_all
  · rename_i found hFound
    rw [h] at hFound
    cases hFound
    cases readOperand level tokens with
    | refused refusal => rfl
    | read e rest shorter => exact Outcome.result_widen _ _

------------------------------------------------------------
-- Operands
------------------------------------------------------------

theorem result_readUnary_nil :
    (readUnary []).result =
      .error (.ahead .expression []) := by
  rw [readUnary]
  rfl

theorem result_readUnary_operator
    {op : UnaryOp}
    (h : UnaryOp.ofKind? t.kind = some op) :
    (readUnary (t :: tokens)).result =
      (readUnary tokens).result.map fun r =>
        (.unary op r.1, r.2) := by
  rw [readUnary]
  split
  · rename_i found hFound
    rw [h] at hFound
    cases hFound
    simp
  · simp_all

theorem result_readUnary_primary
    (h : UnaryOp.ofKind? t.kind = none) :
    (readUnary (t :: tokens)).result =
      (readPrimary t tokens).result := by
  rw [readUnary]
  split
  · simp_all
  · rfl

/- What follows the expression after an opening parenthesis. -/
def closeParen
    (r : Expr × List Token) :
    Except Refusal (Expr × List Token) :=
  match r.2 with
  | [] => .error (.ahead .closingParen [])
  | close :: rest =>
      if close.kind = .symbol .rightParen then
        .ok (r.1, rest)
      else
        .error (.ahead .closingParen (close :: rest))

theorem result_readPrimary_paren
    (h : t.kind = .symbol .leftParen) :
    (readPrimary t tokens).result =
      (readLevel .or tokens).result.bind closeParen := by
  rw [readPrimary, if_pos h]
  cases readLevel .or tokens with
  | refused refusal => rfl
  | read e rest shorter =>
      cases rest with
      | nil => rfl
      | cons close rest =>
          by_cases hClose : close.kind = .symbol .rightParen
          · simp only [hClose, if_true]
            simp [Outcome.result, Except.bind, closeParen,
              hClose]
          · simp only [hClose, if_false]
            simp [Outcome.result, Except.bind, closeParen,
              hClose]

theorem result_readPrimary_atom
    (h : t.kind ≠ .symbol .leftParen) :
    (readPrimary t tokens).result =
      (readAtom t tokens).result := by
  rw [readPrimary, if_neg h]

------------------------------------------------------------
-- Literals And Paths
------------------------------------------------------------

theorem result_readAtom_literal
    {value : Value}
    (h : Value.ofToken? t = some value) :
    (readAtom t tokens).result =
      .ok (.literal value, tokens) := by
  simp only [readAtom, h]
  rfl

/- Of the tokens with a value only a number can lack one. -/
theorem result_readAtom_number
    (hKind : t.kind = .number)
    (h : Value.ofToken? t = none) :
    (readAtom t tokens).result =
      .error ⟨.numberLiteral, some t, tokens⟩ := by
  simp only [readAtom, h, hKind, if_true]
  rfl

theorem result_readAtom_path
    (hKind : t.kind = .identifier) :
    (readAtom t tokens).result =
      (Reading.path (t :: tokens)).map fun r =>
        (.path r.1, r.2) := by
  have hValue : Value.ofToken? t = none := by
    simp [Value.ofToken?, hKind]
  have hNumber : t.kind ≠ .number := by
    simp [hKind]
  simp only [readAtom, hValue, if_neg hNumber, if_pos hKind]
  split
  · rename_i hPath
    simp only [hPath]
    rfl
  · rename_i hPath
    simp only [hPath]
    rfl

theorem result_readAtom_other
    (h : Value.ofToken? t = none)
    (hNumber : t.kind ≠ .number)
    (hIdentifier : t.kind ≠ .identifier) :
    (readAtom t tokens).result =
      .error (.ahead .expression (t :: tokens)) := by
  simp only [readAtom, h, if_neg hNumber,
    if_neg hIdentifier]
  rfl

end Rulebook.Expr
