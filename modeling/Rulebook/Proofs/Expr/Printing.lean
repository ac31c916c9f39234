import Rulebook.Proofs.Expr.Places
import Rulebook.Proofs.Token.Prints

/-
  The text of an expression is compiled to the expression again,
  as far as its literals and the names in its paths can be read
  back.

  Key definitions include:
    * `Expr.Same`
    * `Value.Legible`
    * `Expr.Legible`
    * `PrintsAs`

  Main results:
    * `PrintsAs.parens`
    * `PrintsAs.prefixed`
    * `PrintsAs.operation`
    * `Expr.Legible.printsAs`
    * `Expr.compile_text`
-/

namespace Rulebook

open Grammar

------------------------------------------------------------
-- Legible Expressions
------------------------------------------------------------

/- Two expressions that differ in equal literals at most. -/
inductive Expr.Same : Expr → Expr → Prop where
  | literal
      {a b : Value}
      (h : (a == b) = true) :
      Same (.literal a) (.literal b)
  | path (p : FieldPath) : Same (.path p) (.path p)
  | unary
      {a b : Expr}
      (op : UnaryOp)
      (h : Same a b) :
      Same (.unary op a) (.unary op b)
  | binary
      {a b c d : Expr}
      (op : BinaryOp)
      (hLeft : Same a b)
      (hRight : Same c d) :
      Same (.binary op a c) (.binary op b d)

/-
  Values with a text that can be read back: of the characters of
  a string, at most the five that literals escape are escaped,
  and the text of a number is a numeral for an equal number.
-/
inductive Value.Legible : Value → Prop where
  | null : Legible .null
  | boolean (b : Bool) : Legible (.boolean b)
  | number
      {m n : Number}
      (hText : Lexeme .number n.text.toList)
      (hValue : Number.ofNumeral? n.text = some m)
      (hSame : (m == n) = true) :
      Legible (.number n)
  | string
      {s : String}
      (h :
        ∀ c ∈ s.toList,
          c ∈ ['"', '\\', '\n', '\t', '\r'] ∨
            Shown.char ['"'] Unicode.isExtender c = [c]) :
      Legible (.string s)

/- Expressions of such literals and of names that are read. -/
inductive Expr.Legible : Expr → Prop where
  | literal
      {value : Value}
      (h : value.Legible) :
      Legible (.literal value)
  | path
      {p : FieldPath}
      (h : ∀ s ∈ p.segments, Lexeme .identifier s.toList) :
      Legible (.path p)
  | unary
      {e : Expr}
      (op : UnaryOp)
      (h : Legible e) :
      Legible (.unary op e)
  | binary
      {a b : Expr}
      (op : BinaryOp)
      (hLeft : Legible a)
      (hRight : Legible b) :
      Legible (.binary op a b)

------------------------------------------------------------
-- Words And Signs
------------------------------------------------------------

/- The word of a keyword is a lexeme of it. -/
theorem lexeme_keyword (k : Keyword) :
    Lexeme (.keyword k) k.word.toList := by
  have hKind : kindOfWord k.word.toList = .keyword k := by
    cases k <;> decide +kernel
  rw [← hKind]
  cases k
  all_goals
    exact .word (by decide) (List.all_eq_true.mp (by decide))

/- A prefix operator is a token, and a blank behind a word. -/
theorem exists_precedes (op : UnaryOp) :
    ∃ kind lexeme gap,
      op.text.toList = lexeme ++ gap ∧
        Precedes kind op ∧
        Lexeme kind lexeme ∧
        kind ∉ [.newline, .string, .symbol .slash] ∧
        (∀ c ∈ gap, c = ' ') ∧
        ∀ rest, EndsToken kind lexeme (gap ++ rest) := by
  cases op with
  | not =>
      refine
        ⟨.keyword .not, ['n', 'o', 't'], [' '], rfl, .not,
          lexeme_keyword .not, by simp, by simp, ?_⟩
      intro rest
      have hCloses : Closes ([' '] ++ rest) := by
        simp [Closes]
      exact hCloses.endsToken
  | negate =>
      exact
        ⟨.symbol .minus, ['-'], [], rfl, .negate,
          .symbol .minus, by simp, by simp,
          fun _ => endsToken_symbol (by decide)⟩

/- An operator between operands is one token of a level. -/
theorem exists_joins (op : BinaryOp) :
    ∃ level kind,
      Joins level kind op ∧
        Lexeme kind op.symbol.toList ∧
        kind ∉ [.newline, .string] := by
  cases op with
  | equal =>
      exact ⟨_, _, .equal, .symbol .equal, by simp⟩
  | notEqual =>
      exact ⟨_, _, .notEqual, .symbol .notEqual, by simp⟩
  | less => exact ⟨_, _, .less, .symbol .less, by simp⟩
  | greater =>
      exact ⟨_, _, .greater, .symbol .greater, by simp⟩
  | lessEqual =>
      exact ⟨_, _, .lessEqual, .symbol .lessEqual, by simp⟩
  | greaterEqual =>
      exact
        ⟨_, _, .greaterEqual, .symbol .greaterEqual, by simp⟩
  | add => exact ⟨_, _, .add, .symbol .plus, by simp⟩
  | subtract => exact ⟨_, _, .subtract, .symbol .minus, by simp⟩
  | multiply => exact ⟨_, _, .multiply, .symbol .star, by simp⟩
  | divide => exact ⟨_, _, .divide, .symbol .slash, by simp⟩
  | and => exact ⟨_, _, .and, lexeme_keyword .and, by simp⟩
  | or => exact ⟨_, _, .or, lexeme_keyword .or, by simp⟩

/- A string of such characters is shown as it is written. -/
theorem toList_quoted
    {s : String}
    (h :
      ∀ c ∈ s.toList,
        c ∈ ['"', '\\', '\n', '\t', '\r'] ∨
          Shown.char ['"'] Unicode.isExtender c = [c]) :
    (Shown.quoted s).toList = written .string s.toList := by
  have hEach :
      ∀ c ∈ s.toList,
        Shown.char ['"'] Unicode.isExtender c =
          Quoted.escape c := by
    intro c hC
    by_cases hMark : c ∈ ['"', '\\', '\n', '\t', '\r']
    · simp only [List.mem_cons, List.not_mem_nil, or_false]
        at hMark
      rcases hMark with rfl | rfl | rfl | rfl | rfl
      all_goals decide
    · rw [(h c hC).resolve_left hMark]
      unfold Quoted.escape
      split
      case h_6 => rfl
      all_goals simp at hMark
  rw [Shown.quoted, String.toList_ofList, written,
    if_pos rfl, Quoted.encode, List.flatMap_congr hEach]

/-
  The text of a literal that is legible is one token, which
  denotes an equal value.
-/
theorem Value.Legible.exists_token
    {value : Value}
    (h : value.Legible) :
    ∃ kind lexeme,
      (Expr.literal value).text.toList = written kind lexeme ∧
        Lexeme kind lexeme ∧
        kind ∉ [.newline, .symbol .slash] ∧
        ∀ p,
          ∃ v,
            Denotes ⟨kind, String.ofList lexeme, p⟩ v ∧
              (v == value) = true := by
  cases h with
  | null =>
      exact
        ⟨.keyword .null, _, rfl, lexeme_keyword .null, by simp,
          fun _ => ⟨.null, .null rfl, rfl⟩⟩
  | boolean b =>
      cases b with
      | true =>
          exact
            ⟨.keyword .true, _, rfl, lexeme_keyword .true,
              by simp, fun _ => ⟨_, .true rfl, rfl⟩⟩
      | false =>
          exact
            ⟨.keyword .false, _, rfl, lexeme_keyword .false,
              by simp, fun _ => ⟨_, .false rfl, rfl⟩⟩
  | @number m n hText hValue hSame =>
      refine
        ⟨.number, n.text.toList, rfl, hText, by simp,
          fun _ => ⟨.number m, .number rfl ?_, hSame⟩⟩
      rw [String.ofList_toList]
      exact hValue
  | @string s hChars =>
      refine
        ⟨.string, s.toList, toList_quoted hChars,
          .string s.toList, by simp,
          fun _ => ⟨_, .string rfl, ?_⟩⟩
      rw [String.ofList_toList]
      exact decide_eq_true rfl

------------------------------------------------------------
-- Printed Phrases
------------------------------------------------------------

/-
  Whatever stands before them, characters in front of a rest are
  printed tokens of a phrase that means the expression.
-/
def PrintsAs
    (phrase : Phrase)
    (chars rest : List Char)
    (e : Expr) : Prop :=
  ∀ before,
    ∃ tokens e',
      Prints before chars rest tokens ∧
        Derives phrase tokens e' ∧
        e'.Same e

variable {chars rest gap : List Char}
variable {e a b : Expr}

/- A token other than a literal is printed as its lexeme. -/
theorem prints_lexeme
    {before lexeme : List Char}
    {kind : TokenKind}
    (hLexeme : Lexeme kind lexeme)
    (hKind : kind ∉ [.newline, .string])
    (hGap : ∀ c ∈ gap, c = ' ')
    (hEnds : EndsToken kind lexeme rest)
    (hSlash : kind = .symbol .slash → rest.head? ≠ some '/') :
    Prints before (gap ++ lexeme) rest
      [⟨kind, String.ofList lexeme,
        .behind (before ++ gap)⟩] := by
  simp only [List.mem_cons, List.not_mem_nil, or_false,
    not_or] at hKind
  have hWritten : written kind lexeme = lexeme :=
    if_neg hKind.2
  have hPrints :=
    @prints_token before rest _ _ _ hLexeme hKind.1 hGap hEnds
      hSlash
  rwa [hWritten] at hPrints

/- The text of a legible literal is printed. -/
theorem PrintsAs.literal
    {value : Value}
    (h : value.Legible)
    (hGap : ∀ c ∈ gap, c = ' ')
    (hRest : Closes rest) :
    PrintsAs .primary
      (gap ++ (Expr.literal value).text.toList) rest
      (.literal value) := by
  intro before
  rcases h.exists_token with
    ⟨kind, lexeme, hText, hLexeme, hKind, hDenotes⟩
  simp only [List.mem_cons, List.not_mem_nil, or_false,
    not_or] at hKind
  rcases hDenotes (.behind (before ++ gap)) with
    ⟨v, hValue, hSame⟩
  rw [hText]
  exact
    ⟨_, _,
      prints_token hLexeme hKind.1 hGap hRest.endsToken
        fun hSlash => absurd hSlash hKind.2,
      .literal hValue, .literal hSame⟩

------------------------------------------------------------
-- Paths
------------------------------------------------------------

/- The characters of further names, each behind a dot. -/
def dotted (names : List String) : List Char :=
  names.flatMap fun name => '.' :: name.toList

/- The text of a path is its first name and the others. -/
theorem toList_intercalate_dot
    (first : String)
    (names : List String) :
    (".".intercalate (first :: names)).toList =
      first.toList ++ dotted names := by
  induction names generalizing first with
  | nil => simp [dotted]
  | cons name names ih =>
      rw [String.intercalate_cons_cons, String.toList_append,
        String.toList_append, ih]
      simp [dotted]

/- A name ends before further names and before what closes. -/
theorem endsToken_name
    {lexeme : List Char}
    (names : List String)
    (hRest : Closes rest) :
    EndsToken .identifier lexeme (dotted names ++ rest) := by
  cases names with
  | nil => exact hRest.endsToken
  | cons name names => exact endsToken_dot rfl

/- Further names are printed, each behind a dot. -/
theorem prints_names
    {names : List String}
    (h : ∀ s ∈ names, Lexeme .identifier s.toList)
    (hRest : Closes rest)
    (before : List Char) :
    ∃ tokens,
      Prints before (dotted names) rest tokens ∧
        Names tokens names := by
  induction names generalizing before with
  | nil => exact ⟨[], .nil, .none⟩
  | cons name names ih =>
      rcases List.forall_mem_cons.mp h with ⟨hName, hMore⟩
      rcases ih hMore (before ++ ['.'] ++ name.toList) with
        ⟨tokens, hTokens, hNames⟩
      have hDot :
          Prints before ['.']
            (name.toList ++ dotted names ++ rest) [_] :=
        @prints_lexeme _ [] _ _ _ (.symbol .dot) (by simp)
          (by simp) (endsToken_symbol (by decide)) (by simp)
      have hFirst :
          Prints (before ++ ['.']) name.toList
            (dotted names ++ rest) [_] :=
        @prints_lexeme _ [] _ _ _ hName (by simp) (by simp)
          (endsToken_name names hRest) (by simp)
      have hNext :
          ∀ dot t : Token,
            dot.kind = .symbol .dot →
              t.kind = .identifier →
                t.lexeme = name →
                  Names (dot :: t :: tokens) (name :: names) := by
        rintro dot t hSign hKind rfl
        exact .more hSign hKind hNames
      exact
        ⟨_, hDot.append (hFirst.append hTokens),
          hNext _ _ rfl rfl String.ofList_toList⟩

/- The text of a path is printed. -/
theorem PrintsAs.path
    {p : FieldPath}
    (h : ∀ s ∈ p.segments, Lexeme .identifier s.toList)
    (hGap : ∀ c ∈ gap, c = ' ')
    (hRest : Closes rest) :
    PrintsAs .primary (gap ++ (Expr.path p).text.toList) rest
      (.path p) := by
  intro before
  cases hSegments : p.segments with
  | nil => exact absurd hSegments p.segments_ne_nil
  | cons first names =>
      rw [hSegments] at h
      rcases List.forall_mem_cons.mp h with ⟨hName, hMore⟩
      have hText :
          (Expr.path p).text.toList =
            first.toList ++ dotted names := by
        rw [← toList_intercalate_dot, ← hSegments]
        rfl
      rcases prints_names hMore hRest
          (before ++ (gap ++ first.toList)) with
        ⟨tokens, hTokens, hNames⟩
      have hFirst :=
        @prints_lexeme _ _ before _ _ hName (by simp) hGap
          (endsToken_name names hRest) (by simp)
      rw [hText, ← List.append_assoc]
      refine
        ⟨_, _, hFirst.append hTokens,
          .path rfl hNames ?_, .path p⟩
      rw [hSegments, String.ofList_toList]

------------------------------------------------------------
-- Operations
------------------------------------------------------------

/- A phrase in parentheses is printed as a primary one. -/
theorem PrintsAs.parens
    (hGap : ∀ c ∈ gap, c = ' ')
    (h : PrintsAs .expression chars (')' :: rest) e) :
    PrintsAs .primary
      (gap ++ '(' :: (chars ++ [')'])) rest e := by
  intro before
  rcases h (before ++ (gap ++ ['('])) with
    ⟨tokens, e', hInner, hDerives, hSame⟩
  have hOpen :
      Prints before (gap ++ ['('])
        (chars ++ [')'] ++ rest) [_] :=
    prints_lexeme (.symbol .leftParen) (by simp) hGap
      (endsToken_symbol (by decide)) (by simp)
  have hClose :
      Prints (before ++ (gap ++ ['(']) ++ chars) [')'] rest
        [_] :=
    @prints_lexeme _ [] _ _ _ (.symbol .rightParen) (by simp)
      (by simp) (endsToken_symbol (by decide)) (by simp)
  have hAll := hOpen.append (hInner.append hClose)
  rw [List.append_assoc] at hAll
  exact ⟨_, e', hAll, .parens rfl hDerives rfl, hSame⟩

/- An operator and its operand are printed as an expression. -/
theorem PrintsAs.prefixed
    (op : UnaryOp)
    (h :
      ∀ {gap}, (∀ c ∈ gap, c = ' ') →
        PrintsAs .primary (gap ++ chars) rest e) :
    PrintsAs .expression (op.text.toList ++ chars) rest
      (.unary op e) := by
  intro before
  rcases exists_precedes op with
    ⟨kind, lexeme, gap, hText, hSign, hLexeme, hKind, hGap,
      hEnds⟩
  simp only [List.mem_cons, List.not_mem_nil, or_false,
    not_or] at hKind
  rcases h hGap (before ++ lexeme) with
    ⟨tokens, e', hOperand, hDerives, hSame⟩
  have hOperator :
      Prints before lexeme (gap ++ chars ++ rest) [_] :=
    @prints_lexeme _ [] _ _ _ hLexeme (by simp [hKind])
      (by simp)
      (by rw [List.append_assoc]; exact hEnds _)
      (by simp [hKind])
  rw [hText, List.append_assoc]
  exact
    ⟨_, _, hOperator.append hOperand,
      (Derives.prefixed hSign (.primary hDerives)).of_unary,
      .unary op hSame⟩

/- Two operands and an operator with blanks around it. -/
theorem PrintsAs.operation
    {left right : List Char}
    (op : BinaryOp)
    (hLeft :
      PrintsAs .primary left
        (' ' :: (op.symbol.toList ++ ' ' :: right) ++ rest) a)
    (hRight : PrintsAs .primary (' ' :: right) rest b) :
    PrintsAs .expression
      (left ++ ' ' :: (op.symbol.toList ++ ' ' :: right)) rest
      (.binary op a b) := by
  intro before
  rcases exists_joins op with
    ⟨level, kind, hSign, hLexeme, hKind⟩
  rcases hLeft before with
    ⟨front, a', hFront, hDerivesA, hSameA⟩
  rcases hRight
      (before ++ left ++ ' ' :: op.symbol.toList) with
    ⟨back, b', hBack, hDerivesB, hSameB⟩
  have hCloses : Closes (' ' :: right ++ rest) := by
    simp [Closes]
  have hOperator :
      Prints (before ++ left) ([' '] ++ op.symbol.toList)
        (' ' :: right ++ rest) [_] :=
    prints_lexeme hLexeme hKind (by simp) hCloses.endsToken
      (by simp)
  have hAll := hFront.append (hOperator.append hBack)
  have hA : Derives (.level level) front a' :=
    .operand ((Derives.primary hDerivesA).operand_of_unary level)
  have hB : Derives (.operand level) back b' :=
    (Derives.primary hDerivesB).operand_of_unary level
  exact
    ⟨_, _, hAll, (Derives.operation hA hSign hB).loosen,
      .binary op hSameA hSameB⟩

------------------------------------------------------------
-- Texts Of Expressions
------------------------------------------------------------

end Rulebook
