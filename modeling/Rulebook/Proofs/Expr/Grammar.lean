import Rulebook.Expr.Reading
import Rulebook.Proofs.Reading

/-
  The grammar of expressions over tokens, from the operation
  that binds the loosest to the one that binds the tightest:

    or         := and (OR and)*
    and        := comparison (AND comparison)*
    comparison := sum ((== | != | >= | <= | > | <) sum)*
    sum        := product ((+ | -) product)*
    product    := unary ((* | /) unary)*
    unary      := NOT unary | - unary | primary
    primary    := literal | ( or ) | IDENT (. IDENT)*

  Key definitions include:
    * `Grammar.Phrase`
    * `Grammar.Joins`
    * `Grammar.Precedes`
    * `Grammar.Denotes`
    * `Grammar.Derives`

  The reader uses tables of its own.  That they are the tables
  of the grammar is stated by:
    * `Grammar.joins_iff`
    * `Grammar.precedes_iff`
    * `Grammar.denotes_iff`

  A phrase that binds tighter is one that binds looser:
    * `Grammar.Derives.operand_of_unary`
    * `Grammar.Derives.loosen`
    * `Grammar.Derives.of_unary`
-/

namespace Rulebook.Grammar

------------------------------------------------------------
-- Tables
------------------------------------------------------------

/- The phrases of the grammar; five have operators between. -/
inductive Phrase where
  | level (level : Level)
  | unary
  | primary

/- An expression is a phrase of the loosest kind. -/
abbrev Phrase.expression : Phrase :=
  .level .or

/- The phrases that the operators of a level stand between. -/
def Phrase.operand : Level → Phrase
  | .or => .level .and
  | .and => .level .comparison
  | .comparison => .level .additive
  | .additive => .level .multiplicative
  | .multiplicative => .unary

/- The operators of the levels, as tokens spell them. -/
inductive Joins : Level → TokenKind → BinaryOp → Prop where
  | or : Joins .or (.keyword .or) .or
  | and : Joins .and (.keyword .and) .and
  | equal : Joins .comparison (.symbol .equal) .equal
  | notEqual : Joins .comparison (.symbol .notEqual) .notEqual
  | greaterEqual :
      Joins .comparison (.symbol .greaterEqual) .greaterEqual
  | lessEqual :
      Joins .comparison (.symbol .lessEqual) .lessEqual
  | greater : Joins .comparison (.symbol .greater) .greater
  | less : Joins .comparison (.symbol .less) .less
  | add : Joins .additive (.symbol .plus) .add
  | subtract : Joins .additive (.symbol .minus) .subtract
  | multiply : Joins .multiplicative (.symbol .star) .multiply
  | divide : Joins .multiplicative (.symbol .slash) .divide

/- The operators before an operand. -/
inductive Precedes : TokenKind → UnaryOp → Prop where
  | not : Precedes (.keyword .not) .not
  | negate : Precedes (.symbol .minus) .negate

/- The literals and their values. -/
inductive Denotes (t : Token) : Value → Prop where
  | number
      {n : Number}
      (hKind : t.kind = .number)
      (hValue : Number.ofNumeral? t.lexeme = some n) :
      Denotes t (.number n)
  | string (hKind : t.kind = .string) :
      Denotes t (.string t.lexeme)
  | true (hKind : t.kind = .keyword .true) :
      Denotes t (.boolean true)
  | false (hKind : t.kind = .keyword .false) :
      Denotes t (.boolean false)
  | null (hKind : t.kind = .keyword .null) : Denotes t .null
  | undefined (hKind : t.kind = .keyword .undefined) :
      Denotes t .null

------------------------------------------------------------
-- Derivations
------------------------------------------------------------

/-
  A run of tokens is a phrase with an expression for its tree.
  What stands left of an operator is a phrase of the same level
  again, and what stands right of it is one operand: operations
  of one level group to the left.
-/
inductive Derives : Phrase → List Token → Expr → Prop where
  | operand
      {level : Level}
      {tokens : List Token}
      {e : Expr}
      (hOperand : Derives (.operand level) tokens e) :
      Derives (.level level) tokens e
  | operation
      {level : Level}
      {left right : List Token}
      {sign : Token}
      {op : BinaryOp}
      {a b : Expr}
      (hLeft : Derives (.level level) left a)
      (hSign : Joins level sign.kind op)
      (hRight : Derives (.operand level) right b) :
      Derives (.level level) (left ++ sign :: right)
        (.binary op a b)
  | prefixed
      {sign : Token}
      {tokens : List Token}
      {op : UnaryOp}
      {e : Expr}
      (hSign : Precedes sign.kind op)
      (hOperand : Derives .unary tokens e) :
      Derives .unary (sign :: tokens) (.unary op e)
  | primary
      {tokens : List Token}
      {e : Expr}
      (hPrimary : Derives .primary tokens e) :
      Derives .unary tokens e
  | literal
      {t : Token}
      {value : Value}
      (hValue : Denotes t value) :
      Derives .primary [t] (.literal value)
  | parens
      {left right : Token}
      {tokens : List Token}
      {e : Expr}
      (hLeft : left.kind = .symbol .leftParen)
      (hInner : Derives .expression tokens e)
      (hRight : right.kind = .symbol .rightParen) :
      Derives .primary (left :: tokens ++ [right]) e
  | path
      {first : Token}
      {tokens : List Token}
      {names : List String}
      {p : FieldPath}
      (hFirst : first.kind = .identifier)
      (hNames : Names tokens names)
      (hPath : p.segments = first.lexeme :: names) :
      Derives .primary (first :: tokens) (.path p)

/- No phrase is empty. -/
theorem Derives.ne_nil
    {phrase : Phrase}
    {tokens : List Token}
    {e : Expr}
    (h : Derives phrase tokens e) : tokens ≠ [] := by
  induction h with
  | operand _ ih => exact ih
  | primary _ ih => exact ih
  | operation => simp
  | prefixed => simp
  | literal => simp
  | parens => simp
  | path => simp

/- What has no operator between is an operand everywhere. -/
theorem Derives.operand_of_unary
    {tokens : List Token}
    {e : Expr}
    (h : Derives .unary tokens e)
    (level : Level) : Derives (.operand level) tokens e := by
  have hProduct : Derives (.level .multiplicative) tokens e :=
    .operand h
  have hSum : Derives (.level .additive) tokens e :=
    .operand hProduct
  have hComparison : Derives (.level .comparison) tokens e :=
    .operand hSum
  cases level with
  | or => exact .operand hComparison
  | and => exact hComparison
  | comparison => exact hSum
  | additive => exact hProduct
  | multiplicative => exact h

/- A phrase of any level is an expression. -/
theorem Derives.loosen
    {level : Level}
    {tokens : List Token}
    {e : Expr}
    (h : Derives (.level level) tokens e) :
    Derives .expression tokens e := by
  have hAnd :
      Derives (.level .and) tokens e →
        Derives .expression tokens e :=
    fun h => .operand h
  have hComparison :
      Derives (.level .comparison) tokens e →
        Derives .expression tokens e :=
    fun h => hAnd (.operand h)
  have hSum :
      Derives (.level .additive) tokens e →
        Derives .expression tokens e :=
    fun h => hComparison (.operand h)
  cases level with
  | or => exact h
  | and => exact hAnd h
  | comparison => exact hComparison h
  | additive => exact hSum h
  | multiplicative => exact hSum (.operand h)

/- So is what has no operator between. -/
theorem Derives.of_unary
    {tokens : List Token}
    {e : Expr}
    (h : Derives .unary tokens e) :
    Derives .expression tokens e :=
  .operand (h.operand_of_unary .or)

------------------------------------------------------------
-- The Tables Of The Reader
------------------------------------------------------------

theorem joins_iff
    {level : Level}
    {kind : TokenKind}
    {op : BinaryOp} :
    Joins level kind op ↔ level.operator? kind = some op := by
  constructor
  · intro h
    cases h <;> rfl
  · intro h
    unfold Level.operator? at h
    split at h <;> cases h <;> constructor

theorem precedes_iff
    {kind : TokenKind}
    {op : UnaryOp} :
    Precedes kind op ↔ UnaryOp.ofKind? kind = some op := by
  constructor
  · intro h
    cases h <;> rfl
  · intro h
    unfold UnaryOp.ofKind? at h
    split at h <;> cases h <;> constructor

theorem denotes_iff
    {t : Token}
    {value : Value} :
    Denotes t value ↔ Value.ofToken? t = some value := by
  constructor
  · intro h
    cases h with
    | number hKind hValue =>
        simp [Value.ofToken?, hKind, hValue]
    | string hKind => simp [Value.ofToken?, hKind]
    | true hKind => simp [Value.ofToken?, hKind]
    | false hKind => simp [Value.ofToken?, hKind]
    | null hKind => simp [Value.ofToken?, hKind]
    | undefined hKind => simp [Value.ofToken?, hKind]
  · intro h
    unfold Value.ofToken? at h
    split at h
    · rename_i hKind
      rcases Option.map_eq_some_iff.mp h with
        ⟨n, hNumber, rfl⟩
      exact .number hKind hNumber
    all_goals rename_i hKind; cases h
    · exact .string hKind
    · exact .true hKind
    · exact .false hKind
    · exact .null hKind
    · exact .undefined hKind

/- A level whose operands are phrases of another level. -/
theorem operand_of_tighter
    {level next : Level}
    (h : level.tighter? = some next) :
    Phrase.operand level = .level next := by
  cases level <;> cases h <;> rfl

/- The level whose operands have no operators between. -/
theorem operand_of_tightest
    {level : Level}
    (h : level.tighter? = none) :
    Phrase.operand level = .unary := by
  cases level <;> cases h
  rfl

end Rulebook.Grammar
