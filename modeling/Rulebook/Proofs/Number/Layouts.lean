import Rulebook.Json
import Rulebook.Proofs.Number.Decimals
import Rulebook.Proofs.Number.Literals
import Rulebook.Value.Coercion

/-
  Numbers are read back from their texts.  A layout moves the
  point and adds zeros and an exponent; none of this changes
  the decimal that its digits stand for, and what it writes is
  a literal.

  Key definitions include:
    * `Decimal.Spelled`
    * `Layout.Readable`

  Main results:
    * `Layout.Readable.exists_spelled_magnitude`
    * `Layout.Readable.ofLiteral?_write`
    * `Number.ofLiteral?_text`
-/

namespace Rulebook

open Literal (IsRun Significand Exponent Sign Written)

------------------------------------------------------------
-- Spelled Decimals
------------------------------------------------------------

namespace Decimal

/- A point with digits behind it, or neither. -/
inductive Fraction : List Char → List Char → Prop where
  | absent : Fraction [] []
  | pointed
      {part : List Char}
      (hPart : ∀ c ∈ part, c.isDigit = true) :
      Fraction ('.' :: part) part

/- An exponent and its number. -/
structure Power (chars : List Char) (e : Int) : Prop where
  exponent : Exponent Char.isDigit chars
  number : exponent? chars = some e

/-
  A decimal as it is spelled: digits, a fraction and a power.
  Its mantissa consists of all the digits.
-/
inductive Spelled : List Char → Decimal → Prop where
  | intro
      {whole fraction part power : List Char}
      {e : Int}
      (hWhole : IsRun Char.isDigit whole)
      (hFraction : Fraction fraction part)
      (hPower : Power power e) :
      Spelled (whole ++ (fraction ++ power))
        ⟨ofDigits (whole ++ part), e - part.length⟩

theorem power_nil : Power [] 0 :=
  ⟨.absent, rfl⟩

/- An exponent starts with its mark. -/
theorem Power.head?
    {chars : List Char}
    {e : Int}
    (h : Power chars e) :
    ∀ c ∈ chars.head?, c.isDigit = false ∧ c ≠ '.' := by
  have hMarks :
      ∀ c ∈ ['e', 'E'], c.isDigit = false ∧ c ≠ '.' :=
    forall_mem_of_all (by decide)
  cases h.exponent with
  | absent => simp
  | @marked mark sign digits hMark hSign hDigits =>
      rintro c ⟨⟩
      exact hMarks mark hMark

theorem Fraction.fraction_append
    {chars part rest : List Char}
    (h : Fraction chars part)
    (hRest :
      ∀ c ∈ rest.head?, c.isDigit = false ∧ c ≠ '.') :
    fraction (chars ++ rest) = (part, rest) := by
  cases h with
  | absent =>
      rw [List.nil_append]
      unfold fraction
      split
      · exact absurd rfl (hRest '.' rfl).2
      · rfl
  | pointed hPart =>
      have hEnd : ∀ c ∈ rest.head?, c.isDigit = false :=
        fun c hC => (hRest c hC).1
      rw [List.cons_append, fraction, takeWhile_run hPart hEnd,
        dropWhile_run hPart hEnd]

/- A decimal is read as it is spelled. -/
theorem Spelled.ofText?_eq
    {chars : List Char}
    {d : Decimal}
    (h : Spelled chars d) : ofText? chars = some d := by
  cases h with
  | @intro whole fraction part power e hWhole hFraction hPower =>
      have hEnd :
          ∀ c ∈ (fraction ++ power).head?,
            c.isDigit = false := by
        cases hFraction with
        | absent => exact fun c hC => (hPower.head? c hC).1
        | pointed hPart =>
            rintro c ⟨⟩
            decide
      simp [ofText?, takeWhile_run hWhole.all hEnd,
        dropWhile_run hWhole.all hEnd,
        hFraction.fraction_append hPower.head?, hWhole.ne_nil,
        hPower.number]

/- A spelled decimal is a literal behind any sign. -/
theorem Spelled.written
    {chars sign : List Char}
    {d : Decimal}
    (h : Spelled chars d)
    (hSign : Sign sign) :
    ∃ significand exponent,
      chars = significand ++ exponent ∧
        Significand Char.isDigit significand ∧
        Written Char.isDigit (sign ++ chars) [] := by
  cases h with
  | @intro whole fraction part power e hWhole hFraction hPower =>
      have hSignificand :
          Significand Char.isDigit (whole ++ fraction) := by
        cases hFraction with
        | absent =>
            rw [List.append_nil]
            exact .whole hWhole
        | pointed hPart => exact .pointed hWhole hPart
      refine
        ⟨whole ++ fraction, power,
          (List.append_assoc _ _ _).symm, hSignificand, ?_⟩
      rw [← List.append_assoc whole]
      exact
        .decimal hSign hSignificand hPower.exponent .absent

/- The number of a spelled decimal is the one nearest to it. -/
theorem Spelled.ofLiteral?_eq
    {chars : List Char}
    {d : Decimal}
    (h : Spelled chars d)
    (negative : Bool) :
    Binary64.ofLiteral?
        (String.ofList
          ((if negative then ['-'] else []) ++ chars)) =
      some (d.nearest negative) := by
  generalize hMinus :
    (if negative then ['-'] else []) = sign
  have hSign : Sign sign := by
    rw [← hMinus]
    cases negative with
    | false => exact .absent
    | true => exact .minus
  have hNegative : (sign == ['-']) = negative := by
    rw [← hMinus]
    cases negative <;> rfl
  rcases h.written hSign with
    ⟨significand, exponent, hChars, hSignificand, hWritten⟩
  have hMore :=
    hSignificand.mono fun _ => Literal.isDecimalDigit_of_isDigit
  have hStrip :
      stripEnds Literal.isPadding (sign ++ chars) =
        sign ++ chars ++ [] := by
    rw [← hWritten.isPlain.stripEnds_isPadding,
      List.append_nil]
  rw [Binary64.ofLiteral?_of_written
      (by rw [String.toList_ofList, hStrip]) hWritten,
    hChars, Literal.ofNumeral?_decimal hSign hMore, ← hChars,
    h.ofText?_eq, hNegative, Option.map_some]

------------------------------------------------------------
-- Powers Of Ten
------------------------------------------------------------

theorem isRun_zero : IsRun Char.isDigit ['0'] :=
  ⟨by simp, forall_mem_of_all (by decide)⟩

theorem isRun_toDigits (n : Nat) :
    IsRun Char.isDigit (Nat.toDigits 10 n) := by
  refine ⟨?_, fun c hMem => ?_⟩
  · exact Nat.toDigits_ne_nil
  · exact
      Nat.isDigit_of_mem_toDigits (by decide) (by decide) hMem

theorem natural?_toDigits (n : Nat) :
    natural? (Nat.toDigits 10 n) = some n := by
  have hRun := isRun_toDigits n
  simp [natural?, hRun.ne_nil, List.all_eq_true.mpr hRun.all,
    ofDigits_toDigits]

/- A whole number behind any sign. -/
theorem integer?_append
    {sign : List Char}
    (hSign : Sign sign)
    (n : Nat) :
    integer? (sign ++ Nat.toDigits 10 n) =
      some (if sign = ['-'] then -(n : Int) else n) := by
  cases hSign with
  | absent =>
      have hFirst := (isRun_toDigits n).head?_append []
      rw [List.append_nil] at hFirst
      rw [List.nil_append]
      unfold integer?
      split
      · rename_i hChars
        rw [hChars] at hFirst
        exact absurd (hFirst '-' rfl) (by decide)
      · rename_i hChars
        rw [hChars] at hFirst
        exact absurd (hFirst '+' rfl) (by decide)
      · rw [natural?_toDigits]
        rfl
  | plus | minus =>
      simp [integer?, natural?_toDigits]

end Decimal

/- A text of a decimal that is as near as the digits are. -/
def Digits.SpelledBy
    (d : Digits)
    (chars : List Char) : Prop :=
  ∃ found,
    Decimal.Spelled chars found ∧
      ∀ negative,
        found.nearest negative = d.decimal.nearest negative

------------------------------------------------------------
-- Layouts That Are Read
------------------------------------------------------------

namespace Layout

open Decimal (Fraction Power Spelled)

/-
  A layout whose texts are read: its ends add nothing but
  zeros, and its marks are those of exponents.
-/
structure Readable (layout : Layout) : Prop where
  wholeEnd :
    ∃ n, Fraction layout.wholeEnd (List.replicate n '0')
  oneDigitEnd :
    ∃ n, Fraction layout.oneDigitEnd (List.replicate n '0')
  mark : layout.mark ∈ ['e', 'E']
  plus : layout.plus ∈ [[], ['+']]

section

variable {layout : Layout}

theorem Readable.sign_plus
    (h : layout.Readable) :
    Sign layout.plus ∧ layout.plus ≠ ['-'] := by
  have hPlus : layout.plus = [] ∨ layout.plus = ['+'] := by
    simpa using h.plus
  rcases hPlus with hPlus | hPlus
  · rw [hPlus]
    exact ⟨.absent, by decide⟩
  · rw [hPlus]
    exact ⟨.plus, by decide⟩

theorem Readable.power
    (h : layout.Readable)
    (e : Int) : Power (layout.exponent e) e := by
  have hSign :
      ∃ sign,
        Sign sign ∧
          layout.exponent e =
            layout.mark :: (sign ++ Nat.toDigits 10 e.natAbs) ∧
          (if sign = ['-'] then -(e.natAbs : Int)
            else e.natAbs) = e := by
    by_cases hNegative : e < 0
    · refine ⟨['-'], .minus, ?_, ?_⟩
      · simp [exponent, hNegative]
      · rw [if_pos rfl]
        omega
    · refine ⟨layout.plus, h.sign_plus.1, ?_, ?_⟩
      · simp [exponent, hNegative]
      · rw [if_neg h.sign_plus.2]
        omega
  rcases hSign with ⟨sign, hSign, hText, hNumber⟩
  have hMark := h.mark
  simp only [List.mem_cons, List.not_mem_nil, or_false]
    at hMark
  have hRead :
      Decimal.exponent? (layout.exponent e) =
        Decimal.integer?
          (sign ++ Nat.toDigits 10 e.natAbs) := by
    rw [hText]
    simp [Decimal.exponent?, hMark]
  refine ⟨?_, ?_⟩
  · rw [hText]
    exact .marked h.mark hSign (Decimal.isRun_toDigits _)
  · rw [hRead, Decimal.integer?_append hSign, hNumber]

/-
  A text of the number that digits stand for.  Zeros may stand
  in front of the digits, where the point moves with them, and
  behind.
-/
theorem spelledBy
    {d : Digits}
    {whole fraction part power : List Char}
    {e : Int}
    (hWhole : IsRun Char.isDigit whole)
    (hFraction : Fraction fraction part)
    (hPower : Power power e)
    (m n : Nat)
    (hDigits :
      whole ++ part =
        List.replicate m '0' ++
          (d.digits ++ List.replicate n '0'))
    (hPoint : e + whole.length = d.point + m) :
    d.SpelledBy (whole ++ (fraction ++ power)) := by
  refine
    ⟨_, .intro hWhole hFraction hPower, fun negative => ?_⟩
  have hLength := congrArg List.length hDigits
  simp only [List.length_append, List.length_replicate]
    at hLength
  have hExponent :
      e - part.length = d.point - d.digits.length - n := by
    omega
  rw [hDigits, Decimal.ofDigits_zeros_append,
    Decimal.ofDigits_append_zeros, hExponent,
    Decimal.nearest_scale, Digits.decimal]

section

variable {d : Digits}

theorem isDigit_of_mem_zeros
    {c : Char}
    {n : Nat}
    (h : c ∈ List.replicate n '0') : c.isDigit = true := by
  rw [List.eq_of_mem_replicate h]
  decide

theorem isRun_append_zeros
    (hDigits : IsRun Char.isDigit d.digits)
    (n : Nat) :
    IsRun Char.isDigit (d.digits ++ List.replicate n '0') := by
  refine ⟨by simp [hDigits.ne_nil], fun c hMem => ?_⟩
  rcases List.mem_append.mp hMem with hMem | hMem
  · exact hDigits.all c hMem
  · exact isDigit_of_mem_zeros hMem

theorem Readable.positional
    (h : layout.Readable)
    (hDigits : IsRun Char.isDigit d.digits) :
    d.SpelledBy (layout.positional d) := by
  unfold Layout.positional
  split
  · -- The point stands before all the digits.
    rename_i hPoint
    have hPart :
        ∀ c ∈ List.replicate (-d.point).toNat '0' ++ d.digits,
          c.isDigit = true := by
      intro c hMem
      rcases List.mem_append.mp hMem with hMem | hMem
      · exact isDigit_of_mem_zeros hMem
      · exact hDigits.all c hMem
    have hSpelled :=
      spelledBy (d := d) Decimal.isRun_zero (.pointed hPart)
        Decimal.power_nil ((-d.point).toNat + 1) 0
        (by simp [List.replicate_succ])
        (by simp; omega)
    simpa using hSpelled
  split
  · -- It stands behind them all.
    rename_i hPoint hWhole
    rcases h.wholeEnd with ⟨n, hEnd⟩
    have hSpelled :=
      spelledBy (d := d)
        (isRun_append_zeros hDigits
          (d.point.toNat - d.digits.length))
        hEnd Decimal.power_nil 0
        (d.point.toNat - d.digits.length + n)
        (by simp [← List.replicate_append_replicate])
        (by simp; omega)
    simpa using hSpelled
  · -- It stands among them.
    rename_i hPoint hPart
    have hTake :
        IsRun Char.isDigit (d.digits.take d.point.toNat) := by
      refine ⟨?_, fun c hMem => ?_⟩
      · simp [hDigits.ne_nil]
        omega
      · exact hDigits.all c (List.mem_of_mem_take hMem)
    have hDrop :
        ∀ c ∈ d.digits.drop d.point.toNat, c.isDigit = true :=
      fun c hMem => hDigits.all c (List.mem_of_mem_drop hMem)
    have hSpelled :=
      spelledBy (d := d) hTake (.pointed hDrop)
        Decimal.power_nil 0 0 (by simp) (by simp; omega)
    simpa using hSpelled

theorem Readable.scientific
    (h : layout.Readable)
    (hDigits : IsRun Char.isDigit d.digits) :
    d.SpelledBy (layout.scientific d) := by
  have hPower := h.power (d.point - 1)
  unfold Layout.scientific
  simp only
  split
  · rename_i first second rest hMany
    rw [hMany] at hDigits
    have hFirst : IsRun Char.isDigit [first] :=
      ⟨by simp, by simpa using hDigits.all first (by simp)⟩
    have hRest : ∀ c ∈ second :: rest, c.isDigit = true :=
      fun c hMem => hDigits.all c (List.mem_cons_of_mem _ hMem)
    have hSpelled :=
      spelledBy (d := d) hFirst (.pointed hRest) hPower 0 0
        (by simp [hMany]) (by simp)
    simpa using hSpelled
  · rename_i hFew
    rcases h.oneDigitEnd with ⟨n, hEnd⟩
    have hOne : d.digits.length = 1 := by
      rcases hChars : d.digits with
        _ | ⟨first, _ | ⟨second, rest⟩⟩
      · exact absurd hChars hDigits.ne_nil
      · rfl
      · exact absurd hChars (hFew first second rest)
    have hSpelled :=
      spelledBy (d := d) hDigits hEnd hPower 0 n
        (by simp) (by simp [hOne])
    simpa using hSpelled

end

/- The text of a magnitude is read as this magnitude. -/
theorem Readable.exists_spelled_magnitude
    (h : layout.Readable)
    {rank : Nat}
    (hRank : rank < Binary64.magnitudes) :
    ∃ found,
      Decimal.Spelled (layout.magnitude rank) found ∧
        ∀ negative,
          found.nearest negative = .ofRank negative rank := by
  unfold magnitude
  split
  · rename_i hZero
    rcases h.positional (d := ⟨['0'], 1⟩) Decimal.isRun_zero with
      ⟨found, hSpelled, hNearest⟩
    refine ⟨found, hSpelled, fun negative => ?_⟩
    rw [hNearest, hZero]
    rfl
  · rename_i hPositive
    have hDigits :
        IsRun Char.isDigit
          (Digits.shortest layout.tie rank).digits :=
      ⟨Digits.digits_shortest_ne_nil hRank hPositive _,
        fun c => Digits.isDigit_of_mem_shortest hRank⟩
    have hText :
        (Digits.shortest layout.tie rank).SpelledBy
          (if layout.isPositional
              ((Digits.shortest layout.tie rank).point - 1) then
            layout.positional (Digits.shortest layout.tie rank)
          else
            layout.scientific
              (Digits.shortest layout.tie rank)) := by
      split
      · exact h.positional hDigits
      · exact h.scientific hDigits
    rcases hText with ⟨found, hSpelled, hNearest⟩
    refine ⟨found, hSpelled, fun negative => ?_⟩
    rw [hNearest, Digits.nearest_shortest hRank]

/- A finite number is read back from its text. -/
theorem Readable.ofLiteral?_write
    (h : layout.Readable)
    (negative : Bool)
    (rank : Fin Binary64.magnitudes) :
    Binary64.ofLiteral? (layout.write negative rank) =
      some (.finite negative rank) := by
  rcases h.exists_spelled_magnitude rank.isLt with
    ⟨found, hSpelled, hNearest⟩
  rw [write, hSpelled.ofLiteral?_eq, hNearest,
    Binary64.ofRank, dif_pos rank.isLt]

end

end Layout

------------------------------------------------------------
-- Texts Of Numbers
------------------------------------------------------------

theorem Number.readable_wholeLayout :
    Number.wholeLayout.Readable where
  wholeEnd := ⟨0, .absent⟩
  oneDigitEnd := ⟨0, .absent⟩
  mark := by decide
  plus := by decide

theorem Number.readable_computedLayout :
    Number.computedLayout.Readable where
  wholeEnd := ⟨1, .pointed Decimal.isRun_zero.all⟩
  oneDigitEnd := ⟨1, .pointed Decimal.isRun_zero.all⟩
  mark := by decide
  plus := by decide

theorem Json.readable_floatLayout :
    Json.floatLayout.Readable where
  wholeEnd := ⟨1, .pointed Decimal.isRun_zero.all⟩
  oneDigitEnd := ⟨0, .absent⟩
  mark := by decide
  plus := by decide

/- A finite number is read back from its text in JSON. -/
theorem Json.ofLiteral?_number
    {x : Binary64}
    (h : x.isFinite = true) :
    Binary64.ofLiteral? (Json.number x) = some x := by
  cases x with
  | nan | infinity negative => cases h
  | finite negative rank =>
      exact readable_floatLayout.ofLiteral?_write negative rank

/-
  Every number is read back from its text, the infinities and
  NaN too, and with the sign of a zero.  The text as a string
  stands for this number.
-/
theorem Number.ofLiteral?_text (n : Number) :
    Binary64.ofLiteral? n.text = some n.value ∧
      (Value.string n.text).toNumber = n.value := by
  have hRead : Binary64.ofLiteral? n.text = some n.value := by
    rcases n with
      ⟨_ | negative | ⟨negative, rank⟩, wholeLiteral⟩
    · have hNan : Binary64.ofLiteral? "NaN" = some .nan := by
        decide
      exact hNan
    · have hInfinities :
          Binary64.ofLiteral? "Infinity" =
              some (.infinity false) ∧
            Binary64.ofLiteral? "-Infinity" =
              some (.infinity true) := by
        decide
      cases negative with
      | false => exact hInfinities.1
      | true => exact hInfinities.2
    · cases wholeLiteral with
      | true =>
          exact
            readable_wholeLayout.ofLiteral?_write negative rank
      | false =>
          exact
            readable_computedLayout.ofLiteral?_write negative
              rank
  refine ⟨hRead, ?_⟩
  rw [Value.toNumber, hRead, Option.getD_some]

end Rulebook
