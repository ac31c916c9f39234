import Rulebook.Number.Literal
import Rulebook.Proofs.Lists

/-
  The language of floating-point literals.  A literal passes two
  recognisers, the pattern with the digits of all scripts and
  the reading of numerals with those of ASCII; together they
  accept the literals that are written in digits of ASCII.

  Key definitions include:
    * `Literal.Sign`
    * `Literal.Significand`
    * `Literal.Exponent`
    * `Literal.Width`
    * `Literal.Written`
    * `Literal.IsDigitClass`

  Main results:
    * `Literal.isLiteral_iff`
    * `Literal.isSome_ofText?_iff`
    * `Binary64.language_of_literals`
-/

namespace Rulebook.Literal

------------------------------------------------------------
-- Grammar
------------------------------------------------------------

/- An optional sign. -/
inductive Sign : List Char → Prop where
  | absent : Sign []
  | plus : Sign ['+']
  | minus : Sign ['-']

section

/- The class of characters that count as digits. -/
variable (isDigit : Char → Bool)

/- One digit or more. -/
structure IsRun (digits : List Char) : Prop where
  ne_nil : digits ≠ []
  all : ∀ c ∈ digits, isDigit c = true

/-
  Digits, which a point and further digits may follow, or a
  point and digits.
-/
inductive Significand : List Char → Prop where
  | whole
      {whole : List Char}
      (hWhole : IsRun isDigit whole) : Significand whole
  | pointed
      {whole part : List Char}
      (hWhole : IsRun isDigit whole)
      (hPart : ∀ c ∈ part, isDigit c = true) :
      Significand (whole ++ '.' :: part)
  | part
      {part : List Char}
      (hPart : IsRun isDigit part) :
      Significand ('.' :: part)

/- An optional exponent: its mark, a sign and digits. -/
inductive Exponent : List Char → Prop where
  | absent : Exponent []
  | marked
      {mark : Char}
      {sign digits : List Char}
      (hMark : mark ∈ ['e', 'E'])
      (hSign : Sign sign)
      (hDigits : IsRun isDigit digits) :
      Exponent (mark :: (sign ++ digits))

/- An optional width letter. -/
inductive Width : List Char → Prop where
  | absent : Width []
  | letter
      {c : Char}
      (hLetter : c ∈ ['f', 'F', 'd', 'D']) : Width [c]

/- A literal: its numeral, and its width behind it. -/
inductive Written : List Char → List Char → Prop where
  | nan
      {sign : List Char}
      (hSign : Sign sign) :
      Written (sign ++ ['N', 'a', 'N']) []
  | infinity
      {sign : List Char}
      (hSign : Sign sign) :
      Written
        (sign ++ ['I', 'n', 'f', 'i', 'n', 'i', 't', 'y']) []
  | decimal
      {sign significand exponent width : List Char}
      (hSign : Sign sign)
      (hSignificand : Significand isDigit significand)
      (hExponent : Exponent isDigit exponent)
      (hWidth : Width width) :
      Written (sign ++ (significand ++ exponent)) width

/-
  None of the characters that have a part of their own in a
  literal is a digit.
-/
structure IsDigitClass : Prop where
  point : isDigit '.' = false
  plus : isDigit '+' = false
  minus : isDigit '-' = false
  mark : ∀ c ∈ ['e', 'E'], isDigit c = false
  width : ∀ c ∈ ['f', 'F', 'd', 'D'], isDigit c = false

end

theorem isDigitClass_isDigit : IsDigitClass Char.isDigit where
  point := by decide
  plus := by decide
  minus := by decide
  mark := forall_mem_of_all (by decide)
  width := forall_mem_of_all (by decide)

theorem isDigitClass_isDecimalDigit :
    IsDigitClass Unicode.isDecimalDigit where
  point := by decide
  plus := by decide
  minus := by decide
  mark := forall_mem_of_all (by decide)
  width := forall_mem_of_all (by decide)

------------------------------------------------------------
-- Signs
------------------------------------------------------------

open Binary64 (splitSign)

/- A text is a sign and what is left behind it. -/
theorem exists_sign (chars : List Char) :
    ∃ sign, Sign sign ∧ chars = sign ++ (splitSign chars).2 := by
  unfold splitSign
  split
  · exact ⟨['-'], .minus, rfl⟩
  · exact ⟨['+'], .plus, rfl⟩
  · exact ⟨[], .absent, rfl⟩

/- A sign is split off where no other one follows. -/
theorem splitSign_append
    {sign body : List Char}
    (hSign : Sign sign)
    (hBody : ∀ c ∈ body.head?, c ≠ '+' ∧ c ≠ '-') :
    splitSign (sign ++ body) = (sign == ['-'], body) := by
  cases hSign with
  | absent =>
      unfold splitSign
      split
      · rename_i h
        rw [List.nil_append] at h
        rw [h] at hBody
        exact absurd rfl (hBody '-' rfl).2
      · rename_i h
        rw [List.nil_append] at h
        rw [h] at hBody
        exact absurd rfl (hBody '+' rfl).1
      · rfl
  | plus => rfl
  | minus => rfl

------------------------------------------------------------
-- Significands And Exponents
------------------------------------------------------------

section

variable {isDigit : Char → Bool}

/- A run of digits is what is taken of a class. -/
theorem isRun_takeWhile
    {chars : List Char}
    (h : chars.takeWhile isDigit ≠ []) :
    IsRun isDigit (chars.takeWhile isDigit) :=
  ⟨h, of_mem_takeWhile⟩

/- The first character of a run is one of its digits. -/
theorem IsRun.head?_append
    {digits : List Char}
    (h : IsRun isDigit digits)
    (rest : List Char) :
    ∀ c ∈ (digits ++ rest).head?, isDigit c = true := by
  rcases List.exists_cons_of_ne_nil h.ne_nil with
    ⟨d, more, rfl⟩
  rintro c ⟨⟩
  exact h.all d List.mem_cons_self

/- No digit is a sign. -/
theorem IsDigitClass.ne_sign
    (hClass : IsDigitClass isDigit)
    {c : Char}
    (h : isDigit c = true) : c ≠ '+' ∧ c ≠ '-' := by
  constructor
  · rintro rfl
    simp [hClass.plus] at h
  · rintro rfl
    simp [hClass.minus] at h

theorem exists_significand
    {chars rest : List Char}
    (h : afterSignificand? isDigit chars = some rest) :
    ∃ significand,
      chars = significand ++ rest ∧
        Significand isDigit significand := by
  have hSplit :
      chars.takeWhile isDigit ++ chars.dropWhile isDigit =
        chars :=
    List.takeWhile_append_dropWhile
  unfold afterSignificand? at h
  simp only at h
  split at h
  · rename_i part hPoint
    have hPart :
        part.takeWhile isDigit ++ part.dropWhile isDigit =
          part :=
      List.takeWhile_append_dropWhile
    split at h
    · cases h
    · rename_i hEmpty
      cases h
      by_cases hWhole : chars.takeWhile isDigit = []
      · refine ⟨'.' :: part.takeWhile isDigit, ?_, .part ?_⟩
        · rw [← hSplit, hWhole, hPoint, List.nil_append,
            List.cons_append, hPart]
        · apply isRun_takeWhile
          intro hNil
          simp [hWhole, hNil] at hEmpty
      · refine
          ⟨chars.takeWhile isDigit ++
              '.' :: part.takeWhile isDigit,
            ?_,
            .pointed (isRun_takeWhile hWhole)
              of_mem_takeWhile⟩
        rw [List.append_assoc, List.cons_append, hPart,
          ← hPoint, hSplit]
  · split at h
    · cases h
    · rename_i hEmpty
      cases h
      refine ⟨chars.takeWhile isDigit, hSplit.symm, .whole ?_⟩
      apply isRun_takeWhile
      simpa using hEmpty

/- A significand is taken where it cannot go on. -/
theorem afterSignificand?_append
    (hClass : IsDigitClass isDigit)
    {significand rest : List Char}
    (hSignificand : Significand isDigit significand)
    (hRest :
      ∀ c ∈ rest.head?, isDigit c = false ∧ c ≠ '.') :
    afterSignificand? isDigit (significand ++ rest) =
      some rest := by
  have hEnd : ∀ c ∈ rest.head?, isDigit c = false :=
    fun c hC => (hRest c hC).1
  unfold afterSignificand?
  cases hSignificand with
  | whole hWhole =>
      rw [takeWhile_run hWhole.all hEnd,
        dropWhile_run hWhole.all hEnd]
      simp only
      split
      · rename_i part
        exact absurd rfl (hRest '.' rfl).2
      · simp [hWhole.ne_nil]
  | @pointed whole part hWhole hPart =>
      have hPoint :
          ∀ c ∈ ('.' :: (part ++ rest)).head?,
            isDigit c = false := by
        rintro c ⟨⟩
        exact hClass.point
      rw [List.append_assoc, List.cons_append,
        takeWhile_run hWhole.all hPoint,
        dropWhile_run hWhole.all hPoint]
      simp [hWhole.ne_nil, dropWhile_run hPart hEnd]
  | @part part hPart =>
      simp [hClass.point, takeWhile_run hPart.all hEnd,
        dropWhile_run hPart.all hEnd, hPart.ne_nil]

theorem exists_exponent
    {chars rest : List Char}
    (h : afterExponent? isDigit chars = some rest) :
    ∃ exponent,
      chars = exponent ++ rest ∧
        Exponent isDigit exponent := by
  cases chars with
  | nil =>
      cases h
      exact ⟨[], rfl, .absent⟩
  | cons c chars =>
      rcases exists_sign chars with ⟨sign, hSign, hChars⟩
      unfold afterExponent? at h
      simp only at h
      split at h
      · rename_i hMark
        split at h
        · cases h
        · rename_i hEmpty
          cases h
          refine
            ⟨c :: (sign ++
                (splitSign chars).2.takeWhile isDigit),
              ?_, .marked ?_ hSign (isRun_takeWhile ?_)⟩
          · rw [List.cons_append, List.append_assoc,
              List.takeWhile_append_dropWhile, ← hChars]
          · simpa using hMark
          · simpa using hEmpty
      · cases h
        exact ⟨[], rfl, .absent⟩

/- An exponent is taken where it cannot go on. -/
theorem afterExponent?_append
    (hClass : IsDigitClass isDigit)
    {exponent rest : List Char}
    (hExponent : Exponent isDigit exponent)
    (hRest :
      ∀ c ∈ rest.head?, isDigit c = false ∧ c ∉ ['e', 'E']) :
    afterExponent? isDigit (exponent ++ rest) = some rest := by
  cases hExponent with
  | absent =>
      rw [List.nil_append]
      cases rest with
      | nil => rfl
      | cons c rest =>
          have hMark := (hRest c rfl).2
          simp only [List.mem_cons, List.not_mem_nil, or_false,
            not_or] at hMark
          simp [afterExponent?, hMark]
  | @marked mark sign digits hMark hSign hDigits =>
      have hEnd : ∀ c ∈ rest.head?, isDigit c = false :=
        fun c hC => (hRest c hC).1
      have hBody :
          ∀ c ∈ (digits ++ rest).head?, c ≠ '+' ∧ c ≠ '-' :=
        fun c hC =>
          hClass.ne_sign (hDigits.head?_append rest c hC)
      simp only [List.mem_cons, List.not_mem_nil, or_false]
        at hMark
      simp [afterExponent?, hMark, List.append_assoc,
        splitSign_append hSign hBody,
        takeWhile_run hDigits.all hEnd,
        dropWhile_run hDigits.all hEnd, hDigits.ne_nil]

theorem exists_decimal
    {chars rest : List Char}
    (h : afterDecimal? isDigit chars = some rest) :
    ∃ significand exponent,
      chars = significand ++ (exponent ++ rest) ∧
        Significand isDigit significand ∧
        Exponent isDigit exponent := by
  rcases Option.bind_eq_some_iff.mp h with
    ⟨behind, hSignificand, hExponent⟩
  rcases exists_significand hSignificand with
    ⟨significand, hChars, hFirst⟩
  rcases exists_exponent hExponent with
    ⟨exponent, hBehind, hSecond⟩
  exact
    ⟨significand, exponent, by rw [hChars, hBehind], hFirst,
      hSecond⟩

/- A decimal is taken where it cannot go on. -/
theorem afterDecimal?_append
    (hClass : IsDigitClass isDigit)
    {significand exponent rest : List Char}
    (hSignificand : Significand isDigit significand)
    (hExponent : Exponent isDigit exponent)
    (hRest :
      ∀ c ∈ rest.head?,
        isDigit c = false ∧ c ≠ '.' ∧ c ∉ ['e', 'E']) :
    afterDecimal? isDigit
        (significand ++ (exponent ++ rest)) = some rest := by
  have hBehind :
      ∀ c ∈ (exponent ++ rest).head?,
        isDigit c = false ∧ c ≠ '.' := by
    cases hExponent with
    | absent =>
        exact fun c hC => ⟨(hRest c hC).1, (hRest c hC).2.1⟩
    | marked hMark hSign hDigits =>
        rintro c ⟨⟩
        refine ⟨hClass.mark _ hMark, ?_⟩
        rintro rfl
        simp at hMark
  rw [afterDecimal?,
    afterSignificand?_append hClass hSignificand hBehind,
    Option.bind_some]
  apply afterExponent?_append hClass hExponent
  exact fun c hC => ⟨(hRest c hC).1, (hRest c hC).2.2⟩

/- A significand starts with a digit or with a point. -/
theorem Significand.head?_append
    {significand : List Char}
    (h : Significand isDigit significand)
    (rest : List Char) :
    ∀ c ∈ (significand ++ rest).head?,
      isDigit c = true ∨ c = '.' := by
  cases h with
  | whole hWhole =>
      exact fun c hC => .inl (hWhole.head?_append rest c hC)
  | pointed hWhole hPart =>
      intro c hC
      rw [List.append_assoc] at hC
      exact .inl (hWhole.head?_append _ c hC)
  | part hPart =>
      rintro c ⟨⟩
      exact .inr rfl

/- No sign stands before a decimal but its own. -/
theorem splitSign_decimal
    (hClass : IsDigitClass isDigit)
    {sign significand : List Char}
    (hSign : Sign sign)
    (hSignificand : Significand isDigit significand)
    (rest : List Char) :
    splitSign (sign ++ (significand ++ rest)) =
      (sign == ['-'], significand ++ rest) := by
  apply splitSign_append hSign
  intro c hC
  rcases hSignificand.head?_append rest c hC with
    hDigit | rfl
  · exact hClass.ne_sign hDigit
  · decide

end

------------------------------------------------------------
-- The Pattern
------------------------------------------------------------

theorem isWidthLetter_iff {c : Char} :
    isWidthLetter c = true ↔ c ∈ ['f', 'F', 'd', 'D'] := by
  simp [isWidthLetter, or_assoc]

theorem width_of_isWidth
    {width : List Char}
    (h : isWidth width = true) : Width width := by
  unfold isWidth at h
  split at h
  · exact .absent
  · exact .letter (isWidthLetter_iff.mp h)
  · cases h

theorem Width.isWidth
    {width : List Char}
    (h : Width width) : isWidth width = true := by
  cases h with
  | absent => rfl
  | letter hLetter => exact isWidthLetter_iff.mpr hLetter

/- A decimal does not go on with a width letter. -/
theorem Width.closes
    {isDigit : Char → Bool}
    (hClass : IsDigitClass isDigit)
    {width : List Char}
    (h : Width width) :
    ∀ c ∈ width.head?,
      isDigit c = false ∧ c ≠ '.' ∧ c ∉ ['e', 'E'] := by
  cases h with
  | absent =>
      rintro c ⟨⟩
  | letter hLetter =>
      rintro c ⟨⟩
      refine ⟨hClass.width _ hLetter, ?_⟩
      revert hLetter
      simp only [List.mem_cons, List.not_mem_nil, or_false]
      rintro (rfl | rfl | rfl | rfl) <;> decide

theorem exists_written
    {chars : List Char}
    (h : isLiteral chars = true) :
    ∃ numeral width,
      chars = numeral ++ width ∧
        Written Unicode.isDecimalDigit numeral width := by
  rcases exists_sign chars with ⟨sign, hSign, hChars⟩
  simp only [isLiteral, Bool.or_eq_true, beq_iff_eq,
    Option.any_eq_true] at h
  rcases h with (hBody | hBody) | ⟨width, hAfter, hWidth⟩
  · rw [hBody] at hChars
    exact ⟨_, [], by simpa using hChars, .nan hSign⟩
  · rw [hBody] at hChars
    exact ⟨_, [], by simpa using hChars, .infinity hSign⟩
  · rcases exists_decimal hAfter with
      ⟨significand, exponent, hBody, hSignificand, hExponent⟩
    rw [hBody] at hChars
    exact
      ⟨_, width, by simpa using hChars,
        .decimal hSign hSignificand hExponent
          (width_of_isWidth hWidth)⟩

theorem isLiteral_of_written
    {numeral width : List Char}
    (h : Written Unicode.isDecimalDigit numeral width) :
    isLiteral (numeral ++ width) = true := by
  cases h with
  | nan hSign | infinity hSign =>
      rw [List.append_nil, isLiteral,
        splitSign_append hSign (by rintro c ⟨⟩; decide)]
      dsimp only
      decide
  | decimal hSign hSignificand hExponent hWidth =>
      have hClass := isDigitClass_isDecimalDigit
      rw [List.append_assoc, List.append_assoc, isLiteral,
        splitSign_decimal hClass hSign hSignificand]
      simp only
      rw [afterDecimal?_append hClass hSignificand hExponent
        (hWidth.closes hClass)]
      simp [hWidth.isWidth]

/- The pattern is the language with the digits of all scripts. -/
theorem isLiteral_iff {chars : List Char} :
    isLiteral chars = true ↔
      ∃ numeral width,
        chars = numeral ++ width ∧
          Written Unicode.isDecimalDigit numeral width := by
  constructor
  · exact exists_written
  · rintro ⟨numeral, width, rfl, hWritten⟩
    exact isLiteral_of_written hWritten

section

variable {isDigit inClass : Char → Bool}

theorem IsRun.mono
    (hMore : ∀ c, isDigit c = true → inClass c = true)
    {digits : List Char}
    (h : IsRun isDigit digits) : IsRun inClass digits :=
  ⟨h.ne_nil, fun c hC => hMore c (h.all c hC)⟩

theorem Significand.mono
    (hMore : ∀ c, isDigit c = true → inClass c = true)
    {significand : List Char}
    (h : Significand isDigit significand) :
    Significand inClass significand := by
  cases h with
  | whole hWhole => exact .whole (hWhole.mono hMore)
  | pointed hWhole hPart =>
      exact
        .pointed (hWhole.mono hMore)
          fun c hC => hMore c (hPart c hC)
  | part hPart => exact .part (hPart.mono hMore)

/- Literals of some digits are literals of more digits. -/
theorem Written.mono
    (hMore : ∀ c, isDigit c = true → inClass c = true)
    {numeral width : List Char}
    (h : Written isDigit numeral width) :
    Written inClass numeral width := by
  cases h with
  | nan hSign => exact .nan hSign
  | infinity hSign => exact .infinity hSign
  | decimal hSign hSignificand hExponent hWidth =>
      refine .decimal hSign (hSignificand.mono hMore) ?_ hWidth
      cases hExponent with
      | absent => exact .absent
      | marked hMark hSign hDigits =>
          exact .marked hMark hSign (hDigits.mono hMore)

end

/- The digits of ASCII are digits. -/
theorem isDecimalDigit_of_isDigit
    {c : Char}
    (h : c.isDigit = true) :
    Unicode.isDecimalDigit c = true := by
  have hCode : c.toNat < 0x80 := by
    have hNine : '9'.toNat = 0x39 := rfl
    have hLast := (Char.isDigit_iff_toNat.mp h).2
    omega
  rw [Unicode.isDecimalDigit, if_pos hCode, h]

------------------------------------------------------------
-- Widths
------------------------------------------------------------

section

variable {isDigit : Char → Bool}

theorem IsRun.getLast?_append
    {digits : List Char}
    (h : IsRun isDigit digits)
    (before : List Char) :
    ∀ c ∈ (before ++ digits).getLast?, isDigit c = true := by
  intro c hC
  rw [List.getLast?_append,
    List.getLast?_eq_some_getLast h.ne_nil] at hC
  cases hC
  exact h.all _ (List.getLast_mem _)

/- A significand ends with a digit or with a point. -/
theorem Significand.getLast?_append
    {significand : List Char}
    (h : Significand isDigit significand)
    (before : List Char) :
    ∀ c ∈ (before ++ significand).getLast?,
      isDigit c = true ∨ c = '.' := by
  cases h with
  | whole hWhole =>
      exact fun c hC => .inl (hWhole.getLast?_append before c hC)
  | @pointed whole part hWhole hPart =>
      intro c hC
      by_cases hNil : part = []
      · subst hNil
        rw [← List.append_assoc, List.getLast?_concat] at hC
        cases hC
        exact .inr rfl
      · rw [← List.append_assoc, List.append_cons] at hC
        exact
          .inl
            (IsRun.getLast?_append ⟨hNil, hPart⟩ _ c hC)
  | part hPart =>
      intro c hC
      rw [List.append_cons] at hC
      exact .inl (hPart.getLast?_append _ c hC)

/- No digit is a width letter, and neither is the point. -/
theorem IsDigitClass.not_isWidthLetter
    (hClass : IsDigitClass isDigit)
    {c : Char}
    (h : isDigit c = true ∨ c = '.') :
    isWidthLetter c = false := by
  rcases h with hDigit | rfl
  · cases hLetter : isWidthLetter c with
    | false => rfl
    | true =>
        rw [hClass.width c (isWidthLetter_iff.mp hLetter)]
          at hDigit
        cases hDigit
  · decide

/- A numeral does not end with a width letter. -/
theorem Written.not_isWidthLetter
    (hClass : IsDigitClass isDigit)
    {numeral width : List Char}
    (h : Written isDigit numeral width) :
    ∀ c ∈ numeral.getLast?, isWidthLetter c = false := by
  cases h with
  | nan hSign =>
      intro c hC
      rw [List.getLast?_append] at hC
      cases hC
      decide
  | infinity hSign =>
      intro c hC
      rw [List.getLast?_append] at hC
      cases hC
      decide
  | decimal hSign hSignificand hExponent hWidth =>
      intro c hC
      apply hClass.not_isWidthLetter
      cases hExponent with
      | absent =>
          rw [List.append_nil] at hC
          exact hSignificand.getLast?_append _ c hC
      | marked hMark hOther hDigits =>
          rw [← List.cons_append, ← List.append_assoc,
            ← List.append_assoc] at hC
          exact .inl (hDigits.getLast?_append _ c hC)

/- The width is what is taken from a literal. -/
theorem withoutWidth_append
    (hClass : IsDigitClass isDigit)
    {numeral width : List Char}
    (h : Written isDigit numeral width) :
    withoutWidth (numeral ++ width) = numeral := by
  have hWidth :
      ∀ c ∈ width.reverse, isWidthLetter c = true := by
    cases h with
    | nan hSign => simp
    | infinity hSign => simp
    | decimal hSign hSignificand hExponent hWidth =>
        cases hWidth with
        | absent => simp
        | letter hLetter =>
            simpa using isWidthLetter_iff.mpr hLetter
  have hNumeral :
      ∀ c ∈ numeral.reverse.head?, isWidthLetter c = false := by
    rw [List.head?_reverse]
    exact h.not_isWidthLetter hClass
  rw [withoutWidth, List.reverse_append,
    dropWhile_run hWidth hNumeral, List.reverse_reverse]

end

------------------------------------------------------------
-- Numerals
------------------------------------------------------------

/- A run of a class is taken to its end. -/
theorem isRun_iff
    {isDigit : Char → Bool}
    {chars : List Char} :
    IsRun isDigit chars ↔
      chars.takeWhile isDigit ≠ [] ∧
        chars.dropWhile isDigit = [] := by
  constructor
  · intro h
    have hTake :=
      @takeWhile_run _ isDigit chars [] h.all (by simp)
    have hDrop :=
      @dropWhile_run _ isDigit chars [] h.all (by simp)
    rw [List.append_nil] at hTake hDrop
    rw [hTake, hDrop]
    exact ⟨h.ne_nil, rfl⟩
  · rintro ⟨hTake, hDrop⟩
    have hSplit :=
      @List.takeWhile_append_dropWhile _ isDigit chars
    rw [hDrop, List.append_nil] at hSplit
    rw [← hSplit]
    exact isRun_takeWhile hTake

theorem isSome_natural?_iff (chars : List Char) :
    (Decimal.natural? chars).isSome = true ↔
      IsRun Char.isDigit chars := by
  unfold Decimal.natural?
  constructor
  · intro h
    split at h
    · cases h
    · rename_i hRun
      simp only [Bool.or_eq_true, Bool.not_eq_true',
        not_or, Bool.not_eq_false] at hRun
      exact
        ⟨by simpa using hRun.1, List.all_eq_true.mp hRun.2⟩
  · intro h
    simp [h.ne_nil, List.all_eq_true.mpr h.all]

theorem isSome_integer?_iff (chars : List Char) :
    (Decimal.integer? chars).isSome = true ↔
      IsRun Char.isDigit (splitSign chars).2 := by
  rw [← isSome_natural?_iff]
  unfold Decimal.integer? splitSign
  split <;> simp

theorem isSome_exponent?_iff (chars : List Char) :
    (Decimal.exponent? chars).isSome = true ↔
      afterExponent? Char.isDigit chars = some [] := by
  cases chars with
  | nil => simp [Decimal.exponent?, afterExponent?]
  | cons c chars =>
      unfold Decimal.exponent? afterExponent?
      by_cases hMark : (c = 'e' || c = 'E') = true
      · simp only [hMark, if_true]
        rw [isSome_integer?_iff, isRun_iff]
        split
        · rename_i hNil
          simp_all
        · rename_i hNil
          simp_all
      · simp [hMark]

/- The significand of a decimal, with digits of ASCII. -/
theorem afterSignificand?_eq_fraction (chars : List Char) :
    afterSignificand? Char.isDigit chars =
      if (chars.takeWhile Char.isDigit).isEmpty &&
          (Decimal.fraction
            (chars.dropWhile Char.isDigit)).1.isEmpty then
        none
      else
        some
          (Decimal.fraction
            (chars.dropWhile Char.isDigit)).2 := by
  unfold afterSignificand? Decimal.fraction
  generalize chars.dropWhile Char.isDigit = rest
  cases rest with
  | nil => simp
  | cons c part =>
      by_cases hPoint : c = '.'
      · subst hPoint
        rfl
      · simp [hPoint]

/- A decimal is one for the pattern, with digits of ASCII. -/
theorem isSome_ofText?_iff (chars : List Char) :
    (Decimal.ofText? chars).isSome = true ↔
      afterDecimal? Char.isDigit chars = some [] := by
  rw [afterDecimal?, afterSignificand?_eq_fraction]
  unfold Decimal.ofText?
  simp only
  split
  · simp
  · rw [Option.isSome_map, isSome_exponent?_iff,
      Option.bind_some]

/- Digits and the point have no other case. -/
theorem toLower_of_isDecimalDigit
    {c : Char}
    (h : Unicode.isDecimalDigit c = true ∨ c = '.') :
    c.toLower = c := by
  rcases h with hDigit | rfl
  · unfold Char.toLower
    split
    · rename_i hUpper
      have hCode : 65 ≤ c.toNat ∧ c.toNat ≤ 90 :=
        ⟨UInt32.le_iff_toNat_le.mp hUpper.1,
          UInt32.le_iff_toNat_le.mp hUpper.2⟩
      rw [Unicode.isDecimalDigit, if_pos (by omega)] at hDigit
      have hNine : '9'.toNat = 0x39 := rfl
      have hLast := (Char.isDigit_iff_toNat.mp hDigit).2
      omega
    · rfl
  · decide

/- A decimal is none of the words. -/
theorem sameWord_decimal
    {significand : List Char}
    (hSignificand :
      Significand Unicode.isDecimalDigit significand)
    (rest : List Char)
    {word : String}
    (hWord :
      ∃ c chars,
        word.toList = c :: chars ∧
          Unicode.isDecimalDigit c = false ∧ c ≠ '.') :
    Binary64.sameWord word (significand ++ rest) = false := by
  rcases hWord with ⟨w, letters, hLetters, hDigit, hPoint⟩
  have hHead := hSignificand.head?_append rest
  unfold Binary64.sameWord
  rw [hLetters]
  cases hChars : significand ++ rest with
  | nil => rfl
  | cons c chars =>
      rw [hChars] at hHead
      have hFirst := hHead c rfl
      rw [List.map_cons, toLower_of_isDecimalDigit hFirst]
      apply beq_false_of_ne
      rintro hSame
      injection hSame with hSame _
      subst hSame
      rcases hFirst with hFirst | hFirst
      · rw [hFirst] at hDigit
        cases hDigit
      · exact hPoint hFirst

/- Numerals are decimals where no word is meant. -/
theorem ofNumeral?_decimal
    {sign significand : List Char}
    (hSign : Sign sign)
    (hSignificand :
      Significand Unicode.isDecimalDigit significand)
    (rest : List Char) :
    Binary64.ofNumeral?
        (String.ofList (sign ++ (significand ++ rest))) =
      (Decimal.ofText? (significand ++ rest)).map
        (·.nearest (sign == ['-'])) := by
  unfold Binary64.ofNumeral?
  rw [String.toList_ofList,
    splitSign_decimal isDigitClass_isDecimalDigit hSign
      hSignificand]
  have hInf :=
    @sameWord_decimal _ hSignificand rest "inf"
      ⟨'i', _, rfl, by decide, by decide⟩
  have hInfinity :=
    @sameWord_decimal _ hSignificand rest "infinity"
      ⟨'i', _, rfl, by decide, by decide⟩
  have hNan :=
    @sameWord_decimal _ hSignificand rest "nan"
      ⟨'n', _, rfl, by decide, by decide⟩
  simp [hInf, hInfinity, hNan]

------------------------------------------------------------
-- Numbers Of Literals
------------------------------------------------------------

/- A numeral in digits of ASCII has a number. -/
theorem Written.isSome_ofNumeral?
    {numeral width : List Char}
    (h : Written Char.isDigit numeral width) :
    (Binary64.ofNumeral? (String.ofList numeral)).isSome =
      true := by
  cases h with
  | nan hSign => cases hSign <;> decide
  | infinity hSign => cases hSign <;> decide
  | decimal hSign hSignificand hExponent hWidth =>
      have hMore :=
        hSignificand.mono fun _ => isDecimalDigit_of_isDigit
      have hAll :=
        @afterDecimal?_append _ isDigitClass_isDigit _ _ []
          hSignificand hExponent (by simp)
      rw [List.append_nil] at hAll
      rw [ofNumeral?_decimal hSign hMore, Option.isSome_map,
        isSome_ofText?_iff, hAll]

/-
  A numeral that the pattern accepts has a number only if its
  digits are those of ASCII.
-/
theorem Written.of_ofNumeral?
    {numeral width : List Char}
    (h : Written Unicode.isDecimalDigit numeral width)
    (hSome :
      (Binary64.ofNumeral? (String.ofList numeral)).isSome =
        true) :
    Written Char.isDigit numeral width := by
  cases h with
  | nan hSign => exact .nan hSign
  | infinity hSign => exact .infinity hSign
  | decimal hSign hSignificand hExponent hWidth =>
      rw [ofNumeral?_decimal hSign hSignificand,
        Option.isSome_map, isSome_ofText?_iff] at hSome
      rcases exists_decimal hSome with
        ⟨significand, exponent, hChars, hFirst, hSecond⟩
      rw [hChars, List.append_nil]
      exact .decimal hSign hFirst hSecond hWidth

------------------------------------------------------------
-- Characters Of Literals
------------------------------------------------------------

/- What stands in a literal beside the digits. -/
def marks : List Char :=
  ['.', '+', '-', 'e', 'E', 'f', 'F', 'd', 'D'] ++
    "NaN".toList ++ "Infinity".toList

/- Digits of ASCII and marks, and nothing else. -/
def IsPlain (chars : List Char) : Prop :=
  ∀ c ∈ chars, c.isDigit = true ∨ c ∈ marks

theorem IsPlain.append
    {first second : List Char}
    (hFirst : IsPlain first)
    (hSecond : IsPlain second) : IsPlain (first ++ second) := by
  intro c hMem
  rcases List.mem_append.mp hMem with hMem | hMem
  · exact hFirst c hMem
  · exact hSecond c hMem

theorem isPlain_of_subset
    {chars : List Char}
    (h : chars ⊆ marks) : IsPlain chars :=
  fun _ hMem => .inr (h hMem)

theorem IsRun.isPlain
    {digits : List Char}
    (h : IsRun Char.isDigit digits) : IsPlain digits :=
  fun c hMem => .inl (h.all c hMem)

theorem Sign.isPlain
    {sign : List Char}
    (h : Sign sign) : IsPlain sign := by
  cases h <;> exact isPlain_of_subset (by decide)

theorem Significand.isPlain
    {significand : List Char}
    (h : Significand Char.isDigit significand) :
    IsPlain significand := by
  have hPoint : IsPlain ['.'] := isPlain_of_subset (by decide)
  cases h with
  | whole hWhole => exact hWhole.isPlain
  | pointed hWhole hPart =>
      exact
        hWhole.isPlain.append
          (hPoint.append fun c hMem => .inl (hPart c hMem))
  | part hPart => exact hPoint.append hPart.isPlain

theorem Exponent.isPlain
    {exponent : List Char}
    (h : Exponent Char.isDigit exponent) :
    IsPlain exponent := by
  cases h with
  | absent => exact isPlain_of_subset (List.nil_subset _)
  | @marked mark sign digits hMark hSign hDigits =>
      have hMarks : ['e', 'E'] ⊆ marks := by decide
      have hPlain : IsPlain [mark] :=
        isPlain_of_subset (by simpa using hMarks hMark)
      exact
        hPlain.append (hSign.isPlain.append hDigits.isPlain)

theorem Width.isPlain
    {width : List Char}
    (h : Width width) : IsPlain width := by
  cases h with
  | absent => exact isPlain_of_subset (List.nil_subset _)
  | letter hLetter =>
      have hLetters : ['f', 'F', 'd', 'D'] ⊆ marks := by
        decide
      exact isPlain_of_subset (by simpa using hLetters hLetter)

theorem Written.isPlain
    {numeral width : List Char}
    (h : Written Char.isDigit numeral width) :
    IsPlain (numeral ++ width) := by
  cases h with
  | nan hSign | infinity hSign =>
      rw [List.append_nil]
      exact hSign.isPlain.append (isPlain_of_subset (by decide))
  | decimal hSign hSignificand hExponent hWidth =>
      exact
        (hSign.isPlain.append
          (hSignificand.isPlain.append
            hExponent.isPlain)).append hWidth.isPlain

/- The digits of a literal in ASCII are those of ASCII. -/
theorem IsPlain.isDigit_of_mem
    {chars : List Char}
    (h : IsPlain chars)
    {c : Char}
    (hMem : c ∈ chars)
    (hDigit : Unicode.isDecimalDigit c = true) :
    c.isDigit = true := by
  have hMarks :
      ∀ c ∈ marks, Unicode.isDecimalDigit c = false :=
    forall_mem_of_all (by decide)
  rcases h c hMem with hPlain | hMark
  · exact hPlain
  · rw [hMarks c hMark] at hDigit
    cases hDigit

/- No padding stands in a literal. -/
theorem IsPlain.not_isPadding
    {chars : List Char}
    (h : IsPlain chars) :
    ∀ c ∈ chars, isPadding c = false := by
  have hMarks : ∀ c ∈ marks, isPadding c = false :=
    forall_mem_of_all (by decide)
  intro c hMem
  rcases h c hMem with hDigit | hMark
  · have hZero : '0'.toNat = 0x30 := rfl
    have hFirst := (Char.isDigit_iff_toNat.mp hDigit).1
    simp only [isPadding, decide_eq_false_iff_not]
    omega
  · exact hMarks c hMark

/- Nothing is stripped from a literal. -/
theorem IsPlain.stripEnds_isPadding
    {chars : List Char}
    (h : IsPlain chars) : stripEnds isPadding chars = chars := by
  have hNone : ∀ c ∈ ([] : List Char), isPadding c = true := by
    simp
  have hHead : ∀ c ∈ chars.head?, isPadding c = false :=
    fun c hC => h.not_isPadding c (List.mem_of_mem_head? hC)
  have hLast :
      ∀ c ∈ chars.reverse.head?, isPadding c = false := by
    intro c hC
    apply h.not_isPadding c
    exact List.mem_reverse.mp (List.mem_of_mem_head? hC)
  have hFront := dropWhile_run hNone hHead
  have hBack := dropWhile_run hNone hLast
  rw [List.nil_append] at hFront hBack
  rw [stripEnds, hFront, hBack, List.reverse_reverse]

end Rulebook.Literal

namespace Rulebook.Binary64

open Literal (Written isLiteral withoutWidth)

variable {text : String}

theorem ofLiteral?_of_written
    {numeral width : List Char}
    (hText :
      stripEnds Literal.isPadding text.toList =
        numeral ++ width)
    (h : Written Char.isDigit numeral width) :
    ofLiteral? text = ofNumeral? (String.ofList numeral) := by
  have hPattern :=
    Literal.isLiteral_of_written
      (h.mono fun _ => Literal.isDecimalDigit_of_isDigit)
  rw [ofLiteral?, hText, if_pos hPattern,
    Literal.withoutWidth_append Literal.isDigitClass_isDigit h]

theorem written_of_ofLiteral?
    (hSome : (ofLiteral? text).isSome = true) :
    ∃ numeral width,
      stripEnds Literal.isPadding text.toList =
          numeral ++ width ∧
        Written Char.isDigit numeral width := by
  unfold ofLiteral? at hSome
  simp only at hSome
  split at hSome
  · rename_i hPattern
    rcases Literal.exists_written hPattern with
      ⟨numeral, width, hText, hWritten⟩
    rw [hText,
      Literal.withoutWidth_append
        Literal.isDigitClass_isDecimalDigit hWritten] at hSome
    exact ⟨numeral, width, hText, hWritten.of_ofNumeral? hSome⟩
  · cases hSome

/-
  The texts that have a number are, padding aside, the literals
  in digits of ASCII, and the number is that of the numeral.
  What passes the pattern with other digits has none.
-/
theorem language_of_literals (text : String) :
    ((ofLiteral? text).isSome = true ↔
        ∃ numeral width,
          stripEnds Literal.isPadding text.toList =
              numeral ++ width ∧
            Written Char.isDigit numeral width) ∧
      (∀ numeral width,
        stripEnds Literal.isPadding text.toList =
            numeral ++ width →
          Written Char.isDigit numeral width →
            ofLiteral? text =
              ofNumeral? (String.ofList numeral)) ∧
      (isLiteral (stripEnds Literal.isPadding text.toList) =
          true ↔
        ∃ numeral width,
          stripEnds Literal.isPadding text.toList =
              numeral ++ width ∧
            Written Unicode.isDecimalDigit numeral width) ∧
      ((∃ c ∈ stripEnds Literal.isPadding text.toList,
          Unicode.isDecimalDigit c = true ∧
            c.isDigit = false) →
        ofLiteral? text = none) := by
  refine
    ⟨⟨written_of_ofLiteral?, ?_⟩,
      fun _ _ => ofLiteral?_of_written,
      Literal.isLiteral_iff, ?_⟩
  · rintro ⟨numeral, width, hText, hWritten⟩
    rw [ofLiteral?_of_written hText hWritten]
    exact hWritten.isSome_ofNumeral?
  · rintro ⟨c, hMem, hDecimal, hDigit⟩
    rw [← Option.not_isSome_iff_eq_none]
    intro hSome
    rcases written_of_ofLiteral? hSome with
      ⟨numeral, width, hText, hWritten⟩
    rw [hText] at hMem
    rw [hWritten.isPlain.isDigit_of_mem hMem hDecimal] at hDigit
    cases hDigit

/- A digit of another script is one for the pattern only. -/
theorem language_of_literals_arabic_three :
    isLiteral "\u0663".toList = true ∧
      ofLiteral? "\u0663" = none ∧
      ofLiteral? " 3d" = ofNumeral? "3" := by
  have hThree : Literal.IsRun Char.isDigit ['3'] :=
    ⟨by decide, forall_mem_of_all (by decide)⟩
  have hWritten : Written Char.isDigit ['3'] ['d'] :=
    .decimal .absent (.whole hThree) .absent
      (.letter (by decide))
  exact
    ⟨by decide,
      (language_of_literals "\u0663").2.2.2
        ⟨'\u0663', by decide, by decide, by decide⟩,
      (language_of_literals " 3d").2.1 ['3'] ['d'] (by decide)
        hWritten⟩

end Rulebook.Binary64
