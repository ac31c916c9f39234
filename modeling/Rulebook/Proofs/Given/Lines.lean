import Rulebook.Proofs.Given.Faults
import Rulebook.Proofs.Given.Parts

/-
  What a `given` line is compiled to, for every text that has
  tokens: the assignments of its parts in order, or the error of
  its first part that makes none.

  Key definitions include:
    * `Grammar.IsField`
    * `Grammar.Acceptable`

  Main results:
    * `compileAssignments_eq_error_iff`
    * `assignments_of_tokenize`
-/

namespace Rulebook

------------------------------------------------------------
-- Acceptable Parts
------------------------------------------------------------

namespace Grammar

/- A path, the plain equals sign, and an expression. -/
def IsField (part : List Token) : Prop :=
  ∃ first more names sign source value,
    part = first :: more ++ sign :: source ∧
      first.kind = .identifier ∧
      Names more names ∧
      sign.kind = .symbol .assign ∧
      Derives .expression source value

/- A part without any equals sign, or one of that form. -/
def Acceptable (part : List Token) : Prop :=
  (∀ t ∈ part, t.kind ∉ equalsSigns) ∨ IsField part

theorem acceptable_nil : Acceptable [] := by
  left
  simp

/- A part of the form assigns to a path. -/
theorem isField_iff
    {part : List Token}
    (hTokens : ∀ t ∈ part, Lexeme t.kind t.lexeme.toList) :
    IsField part ↔ ∃ a, Assigns part (some a) := by
  constructor
  · rintro ⟨first, more, names, sign, source, value, rfl,
      hFirst, hMore, hSign, hSource⟩
    have hNames :
        ∀ t ∈ first :: more,
          t.kind = .identifier → t.lexeme ≠ "" :=
      fun t hT =>
        lexeme_ne_empty
          ((List.forall_mem_append.mp hTokens).1 t hT)
    rcases Reading.exists_path hNames hFirst hMore with
      ⟨path, hPath⟩
    exact
      ⟨⟨path, value⟩, .field hFirst hMore hPath hSign hSource⟩
  · rintro ⟨a, h⟩
    cases h with
    | field hFirst hMore hPath hSign hSource =>
        exact
          ⟨_, _, _, _, _, _, rfl, hFirst, hMore, hSign, hSource⟩

/- The acceptable parts are those that can be compiled. -/
theorem acceptable_iff
    {part : List Token}
    (hTokens : ∀ t ∈ part, Lexeme t.kind t.lexeme.toList) :
    Acceptable part ↔ ∃ result, Assigns part result := by
  rw [Acceptable, isField_iff hTokens]
  constructor
  · rintro (hNone | ⟨a, hField⟩)
    · refine ⟨none, .nothing fun t hT => ?_⟩
      rw [← Bool.not_eq_true, holdsEquals_iff]
      exact hNone t hT
    · exact ⟨some a, hField⟩
  · rintro ⟨_ | a, h⟩
    · cases h with
      | nothing hPart =>
          left
          intro t hT
          rw [← holdsEquals_iff, hPart t hT]
          simp
    · exact .inr ⟨a, h⟩

/- A part that offends is not acceptable. -/
theorem Offends.not_acceptable
    {part : List Token}
    {error : ParseError}
    (hTokens : ∀ t ∈ part, Lexeme t.kind t.lexeme.toList)
    (h : Offends part error) : ¬ Acceptable part := by
  rw [acceptable_iff hTokens]
  rintro ⟨result, hResult⟩
  rcases assigns_or_offends hTokens with
    ⟨_, hNot⟩ | ⟨hNot, _⟩
  · exact hNot error h
  · exact hNot result hResult

/- A path gets what the expression reader finds in a source. -/
theorem assigns_some_iff
    {part : List Token}
    {path : FieldPath}
    {value : Expr}
    (hTokens : ∀ t ∈ part, Lexeme t.kind t.lexeme.toList) :
    Assigns part (some ⟨path, value⟩) ↔
      ∃ first more names sign source,
        part = first :: more ++ sign :: source ∧
          first.kind = .identifier ∧
          Names more names ∧
          path.segments = first.lexeme :: names ∧
          sign.kind = .symbol .assign ∧
          ((Reader.ofTokens source).run
            Expr.readingAll).1 = .ok value := by
  have hRead :
      ∀ {source : List Token},
        (∀ t ∈ source, Lexeme t.kind t.lexeme.toList) →
          (((Reader.ofTokens source).run
              Expr.readingAll).1 = .ok value ↔
            Derives .expression source value) := by
    intro source hSource
    rw [Reader.run_ok_iff, Reader.ahead_ofTokens fun t hT =>
      (hSource t hT).ne_finish]
    simp [Expr.readingAll_eq_ok_iff]
  constructor
  · intro h
    cases h with
    | field hFirst hMore hPath hSign hSource =>
        have hBehind := (List.forall_mem_append.mp hTokens).2
        have hTokens := (List.forall_mem_cons.mp hBehind).2
        exact
          ⟨_, _, _, _, _, rfl, hFirst, hMore, hPath, hSign,
            (hRead hTokens).mpr hSource⟩
  · rintro ⟨first, more, names, sign, source, rfl, hFirst,
      hMore, hPath, hSign, hValue⟩
    have hBehind := (List.forall_mem_append.mp hTokens).2
    have hTokens := (List.forall_mem_cons.mp hBehind).2
    exact
      .field hFirst hMore hPath hSign
        ((hRead hTokens).mp hValue)

end Grammar

open Grammar

------------------------------------------------------------
-- Texts
------------------------------------------------------------

section

variable {text : String}
variable {body : List Token}
variable {stop : Token}

/- A text has the error of the first part that offends. -/
theorem compileAssignments_eq_error_iff
    {error : EvalError}
    (hReader : expressionReader text = .ok ⟨body, stop⟩)
    (hBody : ∀ t ∈ body, Respellable t) :
    compileAssignments text = .error error ↔
      ∃ front part back found,
        splitCommas 0 body = front ++ part :: back ∧
          (∀ p ∈ front, Acceptable p) ∧
          Offends part found ∧
          error = .ofParseError text found := by
  have hLexemes :
      ∀ part ∈ splitCommas 0 body,
        ∀ t ∈ part, Lexeme t.kind t.lexeme.toList :=
    fun part hPart t hT =>
      (hBody t (mem_of_mem_splitCommas hPart t hT)).1
  have hFront :
      ∀ p ∈ splitCommas 0 body,
        ((∃ result, compileFragment p = .ok result) ↔
          Acceptable p) := by
    intro p hP
    rw [acceptable_iff (hLexemes p hP)]
    simp only [compileFragment_eq_ok_iff fun t hT =>
      (hLexemes p hP t hT).ne_finish]
  rw [compileAssignments, hReader]
  simp only [mapError_eq_error_iff, fragmentsOf,
    compileFragments_eq_error_iff]
  constructor
  · rintro ⟨found, ⟨front, part, back, hParts, hOk, hPart⟩,
      rfl⟩
    rw [hParts] at hLexemes hFront
    refine ⟨front, part, back, found, hParts, ?_, ?_, rfl⟩
    · intro p hP
      exact
        (hFront p (List.mem_append_left _ hP)).mp (hOk p hP)
    · exact
        (compileFragment_eq_error_iff
          (hLexemes part (by simp))).mp hPart
  · rintro ⟨front, part, back, found, hParts, hOk, hPart, rfl⟩
    rw [hParts] at hLexemes hFront
    refine ⟨found, ⟨front, part, back, hParts, ?_, ?_⟩, rfl⟩
    · intro p hP
      exact
        (hFront p (List.mem_append_left _ hP)).mpr (hOk p hP)
    · exact
        (compileFragment_eq_error_iff
          (hLexemes part (by simp))).mpr hPart

end

/- Lists can be related if each member has one related to it. -/
theorem exists_forall₂_iff
    {α β : Type}
    {R : α → β → Prop}
    {xs : List α} :
    (∃ ys, List.Forall₂ R xs ys) ↔ ∀ x ∈ xs, ∃ y, R x y := by
  induction xs with
  | nil => simp
  | cons x xs ih =>
      rw [List.forall_mem_cons, ← ih]
      constructor
      · rintro ⟨_, h⟩
        cases h with
        | cons hFirst hMore => exact ⟨⟨_, hFirst⟩, _, hMore⟩
      · rintro ⟨⟨y, hFirst⟩, ys, hMore⟩
        exact ⟨y :: ys, .cons hFirst hMore⟩

/-
  A text that has tokens can be compiled if each of its parts is
  acceptable.  Then its parts assign, in order, what the readers
  of paths and expressions find in them.  Otherwise it has the
  error of its first part that is not acceptable.
-/
theorem assignments_of_tokenize
    {text : String}
    {tokens : List Token}
    (hText : tokenize text = .ok tokens) :
    ∃ body stop parts,
      withoutLineEnds tokens = body ++ [stop] ∧
        stop.kind = .finish ∧
        (∀ other, Parted [] body other ↔ other = parts) ∧
        ((∃ list, compileAssignments text = .ok list) ↔
          ∀ part ∈ parts, part ≠ [] → Acceptable part) ∧
        (∀ list,
          compileAssignments text = .ok list ↔
            ∃ results,
              List.Forall₂ Assigns parts results ∧
                results.flatMap Option.toList = list) ∧
        (∀ part ∈ parts, ∀ path value,
          Assigns part (some ⟨path, value⟩) ↔
            ∃ first more names sign source,
              part = first :: more ++ sign :: source ∧
                first.kind = .identifier ∧
                Names more names ∧
                path.segments = first.lexeme :: names ∧
                sign.kind = .symbol .assign ∧
                ((Reader.ofTokens source).run
                  Expr.readingAll).1 = .ok value) ∧
        ∀ error,
          compileAssignments text = .error error ↔
            ∃ front part back found,
              parts = front ++ part :: back ∧
                (∀ p ∈ front, Acceptable p) ∧
                ¬ Acceptable part ∧
                Offends part found ∧
                error = .ofParseError text found := by
  rcases exists_withoutLineEnds hText with
    ⟨body, stop, hKept, hStop, hBody⟩
  have hReader :=
    expressionReader_of_tokenize hText hKept hStop hBody
  have hLexemes :
      ∀ part ∈ splitCommas 0 body,
        ∀ t ∈ part, Lexeme t.kind t.lexeme.toList :=
    fun part hPart t hT =>
      (hBody t (mem_of_mem_splitCommas hPart t hT)).1
  refine
    ⟨body, stop, splitCommas 0 body, hKept, hStop,
      fun _ => parted_iff, ?_, ?_, ?_, ?_⟩
  · simp only [compileAssignments_eq_ok_iff hReader hBody]
    constructor
    · rintro ⟨list, results, hResults, _⟩ part hPart _
      rw [acceptable_iff (hLexemes part hPart)]
      exact exists_forall₂_iff.mp ⟨results, hResults⟩ part hPart
    · intro h
      have hEach :
          ∀ part ∈ splitCommas 0 body,
            ∃ result, Assigns part result := by
        intro part hPart
        rw [← acceptable_iff (hLexemes part hPart)]
        by_cases hEmpty : part = []
        · rw [hEmpty]
          exact acceptable_nil
        · exact h part hPart hEmpty
      rcases exists_forall₂_iff.mpr hEach with
        ⟨results, hResults⟩
      exact ⟨_, results, hResults, rfl⟩
  · exact fun list => compileAssignments_eq_ok_iff hReader hBody
  · exact fun part hPart path value =>
      assigns_some_iff (hLexemes part hPart)
  · intro error
    rw [compileAssignments_eq_error_iff hReader hBody]
    constructor
    · rintro ⟨front, part, back, found, hParts, hFront, hPart,
        hError⟩
      have hTokens := hLexemes part (by simp [hParts])
      exact
        ⟨front, part, back, found, hParts, hFront,
          hPart.not_acceptable hTokens, hPart, hError⟩
    · rintro ⟨front, part, back, found, hParts, hFront, _, hPart,
        hError⟩
      exact
        ⟨front, part, back, found, hParts, hFront, hPart, hError⟩

/-
  A line whose parts are an assignment over two lines, a closing
  parenthesis too many, a note, and an assignment.
-/
theorem assignments_of_tokenize_lines :
    ∃ tokens body stop parts,
      tokenize "a.b = 1\n+ 2, ), note, c = (3)" = .ok tokens ∧
        withoutLineEnds tokens = body ++ [stop] ∧
        body.length = 17 ∧
        Parted [] body parts ∧
        ((∃ list,
            compileAssignments "a.b = 1\n+ 2, ), note, c = (3)" =
              .ok list) ↔
          ∀ part ∈ parts, part ≠ [] → Acceptable part) := by
  have hText :
      tokenize "a.b = 1\n+ 2, ), note, c = (3)" =
        .ok
          [⟨.identifier, "a", ⟨1, 1⟩⟩,
           ⟨.symbol .dot, ".", ⟨1, 2⟩⟩,
           ⟨.identifier, "b", ⟨1, 3⟩⟩,
           ⟨.symbol .assign, "=", ⟨1, 5⟩⟩,
           ⟨.number, "1", ⟨1, 7⟩⟩,
           ⟨.newline, "\n", ⟨1, 8⟩⟩,
           ⟨.symbol .plus, "+", ⟨2, 1⟩⟩,
           ⟨.number, "2", ⟨2, 3⟩⟩,
           ⟨.symbol .comma, ",", ⟨2, 4⟩⟩,
           ⟨.symbol .rightParen, ")", ⟨2, 6⟩⟩,
           ⟨.symbol .comma, ",", ⟨2, 7⟩⟩,
           ⟨.identifier, "note", ⟨2, 9⟩⟩,
           ⟨.symbol .comma, ",", ⟨2, 13⟩⟩,
           ⟨.identifier, "c", ⟨2, 15⟩⟩,
           ⟨.symbol .assign, "=", ⟨2, 17⟩⟩,
           ⟨.symbol .leftParen, "(", ⟨2, 19⟩⟩,
           ⟨.number, "3", ⟨2, 20⟩⟩,
           ⟨.symbol .rightParen, ")", ⟨2, 21⟩⟩,
           ⟨.finish, "", ⟨2, 22⟩⟩] := by
    decide +kernel
  rcases assignments_of_tokenize hText with
    ⟨body, stop, parts, hKept, _, hParts, hOk, _⟩
  have hLength := congrArg List.length hKept
  rw [List.length_append] at hLength
  have hBody : body.length = 17 :=
    Nat.succ.inj hLength.symm
  exact
    ⟨_, body, stop, parts, hText, hKept, hBody,
      (hParts parts).mpr rfl, hOk⟩

end Rulebook
