import Rulebook.Json.Document
import Rulebook.Proofs.Number.Layouts
import Rulebook.Proofs.Token.Lexeme
import Rulebook.Proofs.Value.Sameness

/-
  What the documents of values tell.  A number is documented in
  one of two forms, as a whole number or as a floating-point
  number, and both are exactly the double that it holds; so
  finite values with the same document are equal, as no whole
  literal is negative.  The digits of a literal are another
  matter: from 2^53 on they may be rounded to that double.

  Key definitions include:
    * `Binary64.IsInteger`
    * `Value.numbers`
    * `Number.WrittenWhole`
    * `Number.FromSource`

  Main results:
    * `Number.isInteger_of_document`
    * `Number.WrittenWhole.document_eq`
    * `Number.FromSource.value_of_document`
    * `Value.faithful_documents`
-/

namespace Rulebook

open Literal (IsRun Significand)
open Binary64
  (units unitsOfOne wholePart signBit signed nearestRank)

------------------------------------------------------------
-- Whole Numbers
------------------------------------------------------------

namespace Binary64

/- The number is the whole number `k`. -/
def IsInteger (x : Binary64) (k : Int) : Prop :=
  ∃ negative rank,
    x = .finite negative rank ∧
      signed negative (units rank) = k * unitsOfOne

theorem unitsOfOne_pos : 0 < unitsOfOne := by
  rcases Decimal.exists_unitsOfOne with ⟨k, _, hOfOne⟩
  rw [hOfOne]
  exact Nat.two_pow_pos k

/- A magnitude without a fraction is its whole part. -/
theorem wholePart_mul_unitsOfOne
    {negative : Bool}
    {rank : Fin magnitudes}
    (h : isWhole (.finite negative rank) = true) :
    wholePart rank * unitsOfOne = units rank := by
  have hDvd : unitsOfOne ∣ units rank :=
    Nat.dvd_of_mod_eq_zero (by simpa [isWhole] using h)
  exact Nat.div_mul_cancel hDvd

/- The sign of a product with a whole number. -/
theorem signed_mul
    (negative : Bool)
    (a b : Nat) :
    signed negative (a * b) = signed negative a * b := by
  cases negative with
  | false => simp [signed]
  | true => simp [signed]

/- What is small enough is not held at a bound. -/
theorem toInt64_of_lt
    {negative : Bool}
    {rank : Fin magnitudes}
    (h : wholePart rank < signBit) :
    toInt64 (.finite negative rank) =
      signed negative (wholePart rank) := by
  unfold toInt64 signed signBit at *
  cases negative <;> simp <;> omega

/-
  Whole numbers stay whole when they are rounded, and those of
  53 binary digits do not change.
-/
theorem units_nearestRank_whole (n : Nat) :
    unitsOfOne ∣ units (nearestRank (n * unitsOfOne) 1) ∧
      (n < 2 * significands →
        units (nearestRank (n * unitsOfOne) 1) =
          n * unitsOfOne) := by
  rcases Decimal.exists_unitsOfOne with ⟨k, hUnits, hOfOne⟩
  rw [units_nearestRank, Nat.div_one, Nat.one_mul, hOfOne]
  generalize hShift : quotientShift (n * 2 ^ k) = shift
  by_cases hLe : shift ≤ k
  · have hExact :
        halfEven (n * 2 ^ k) (2 ^ shift) * 2 ^ shift =
          n * 2 ^ k := by
      have hPower : 2 ^ k = 2 ^ (k - shift) * 2 ^ shift := by
        rw [← Nat.pow_add, Nat.sub_add_cancel hLe]
      rw [hPower, ← Nat.mul_assoc,
        halfEven_mul (Nat.two_pow_pos _)]
    rw [hExact]
    exact ⟨Nat.dvd_mul_left _ _, fun _ => rfl⟩
  · have hLess : k ≤ shift := Nat.le_of_not_le hLe
    refine ⟨?_, fun hSmall => ?_⟩
    · exact
        Nat.dvd_trans (Nat.pow_dvd_pow 2 hLess)
          (Nat.dvd_mul_left _ _)
    · -- Such a number needs no shift beyond that of one.
      have hBound : n * 2 ^ k < 2 ^ (53 + k) := by
        rw [Nat.pow_add, ← two_significands]
        exact
          Nat.mul_lt_mul_of_pos_right hSmall
            (Nat.two_pow_pos k)
      rw [← hShift] at hLe
      exact absurd (quotientShift_le hBound) hLe

/- Whole numbers of 53 binary digits are finite. -/
theorem nearestRank_whole_lt
    {n : Nat}
    (h : n < 2 * significands) :
    nearestRank (n * unitsOfOne) 1 < magnitudes :=
  calc
    nearestRank (n * unitsOfOne) 1
    _ ≤ nearestRank (2 * significands * unitsOfOne) 1 :=
        nearestRank_mono_left 1
          (Nat.mul_le_mul_right _ (Nat.le_of_lt h))
    _ < magnitudes := by decide +kernel

end Binary64

------------------------------------------------------------
-- Whole Literals
------------------------------------------------------------

/- The lexeme of a number has digits only, or a point. -/
theorem Lexeme.isRun_or_point
    {lexeme : List Char}
    (h : Lexeme .number lexeme) :
    IsRun Char.isDigit lexeme ∨ '.' ∈ lexeme := by
  generalize hKind : TokenKind.number = kind at h
  cases h with
  | @whole d digits hDigit hMore =>
      refine .inl ⟨by simp, ?_⟩
      exact List.forall_mem_cons.mpr ⟨hDigit, hMore⟩
  | decimal => exact .inr (by simp)
  | @word c chars hStart hMore =>
      rcases kindOfWord_cases (c :: chars) with
        ⟨k, hWord⟩ | hWord <;>
        rw [hWord] at hKind <;> cases hKind
  | _ => cases hKind

namespace Number

/- The number of a lexeme that has no point. -/
structure WrittenWhole
    (n : Number)
    (lexeme : List Char) : Prop where
  isLexeme : Lexeme .number lexeme
  reads : ofNumeral? (String.ofList lexeme) = some n
  whole : n.wholeLiteral = true

/- Such a number is nearest to its digits. -/
theorem WrittenWhole.value_eq
    {lexeme : List Char}
    {n : Number}
    (h : n.WrittenWhole lexeme) :
    n.value =
      .nearest false (Decimal.ofDigits lexeme * unitsOfOne)
        1 := by
  rcases h with ⟨hLexeme, hRead, hWhole⟩
  rcases Option.map_eq_some_iff.mp hRead with ⟨x, hX, rfl⟩
  have hRun : IsRun Char.isDigit lexeme := by
    apply hLexeme.isRun_or_point.resolve_right
    simpa using hWhole
  have hMore :=
    (Significand.whole hRun).mono fun _ =>
      Literal.isDecimalDigit_of_isDigit
  have hSpelled :=
    Decimal.Spelled.intro hRun .absent Decimal.power_nil
  have hNearest :=
    Literal.ofNumeral?_decimal .absent hMore []
  rw [List.nil_append] at hNearest
  rw [show lexeme ++ [] = lexeme ++ ([] ++ []) from rfl,
    hSpelled.ofText?_eq, Option.map_some,
    List.append_nil, List.append_nil, hX] at hNearest
  injection hNearest with hNearest
  rw [hNearest, Decimal.nearest_eq, Binary64.nearest]
  simp [Decimal.rank, Decimal.numerator, Decimal.denominator]

end Number

------------------------------------------------------------
-- Documents Of Numbers
------------------------------------------------------------

namespace Number

variable {n m : Number}

/-
  A finite number of a source, or a computed one: if it counts
  as written whole, then it is that of a lexeme.
-/
structure FromSource (n : Number) : Prop where
  finite : n.value.isFinite = true
  written :
    n.wholeLiteral = true → ∃ lexeme, n.WrittenWhole lexeme

/- A whole number in a document is exactly the number. -/
theorem isInteger_of_document
    {k : Int}
    (h : n.document = .integer k) : n.value.IsInteger k := by
  rcases n with ⟨_ | _ | ⟨negative, rank⟩, wholeLiteral⟩
  · cases h
  · cases h
  · simp only [document] at h
    split at h
    · rename_i hGuard
      simp only [Bool.and_eq_true, decide_eq_true_eq] at hGuard
      rcases hGuard with ⟨⟨_, hWhole⟩, hLess⟩
      injection h with hSame
      refine ⟨negative, rank, rfl, ?_⟩
      rw [← hSame, Binary64.toInt64_of_lt hLess,
        ← Binary64.wholePart_mul_unitsOfOne hWhole,
        Binary64.signed_mul]
    · cases h

/- A floating-point number in a document is the number. -/
theorem value_of_document_float
    {x : Binary64}
    (h : n.document = .float x) : n.value = x := by
  unfold document at h
  split at h
  · split at h
    · cases h
    · injection h
  · cases h

/- There is a number in the document of a finite one. -/
theorem document_cases
    (h : n.value.isFinite = true) :
    n.document = .float n.value ∨
      n.wholeLiteral = true ∧
        ∃ k, n.document = .integer k := by
  rcases n with ⟨_ | _ | ⟨negative, rank⟩, wholeLiteral⟩
  · cases h
  · cases h
  · simp only [document]
    split
    · rename_i hGuard
      simp only [Bool.and_eq_true] at hGuard
      exact .inr ⟨hGuard.1.1, _, rfl⟩
    · exact .inl rfl

/- A whole literal is documented by its whole part. -/
theorem document_of_isWhole
    (hLiteral : n.wholeLiteral = true)
    {negative : Bool}
    {rank : Fin Binary64.magnitudes}
    (hValue : n.value = .finite negative rank)
    (hWhole : n.value.isWhole = true) :
    n.document =
      if wholePart rank < signBit then
        .integer (signed negative (wholePart rank))
      else
        .float n.value := by
  rcases n with ⟨value, wholeLiteral⟩
  subst hValue hLiteral
  simp only [document, hWhole, Bool.true_and,
    decide_eq_true_eq]
  split
  · rename_i hLess
    rw [Binary64.toInt64_of_lt hLess]
  · rfl

section

variable {lexeme : List Char}

/- The number of a finite whole literal is whole. -/
theorem WrittenWhole.isWhole
    (h : n.WrittenWhole lexeme)
    {negative : Bool}
    {rank : Fin Binary64.magnitudes}
    (hValue : n.value = .finite negative rank) :
    negative = false ∧ n.value.isWhole = true := by
  have hNearest := h.value_eq
  rw [hValue, Binary64.nearest, Binary64.ofRank] at hNearest
  split at hNearest
  · injection hNearest with hNegative hRank
    refine ⟨hNegative, ?_⟩
    have hDvd :=
      (Binary64.units_nearestRank_whole
        (Decimal.ofDigits lexeme)).1
    rw [hValue, hRank]
    simpa [Binary64.isWhole] using Nat.mod_eq_zero_of_dvd hDvd
  · cases hNearest

/-
  The double that a whole literal is read as is documented as
  the whole number that it is below 2^63, and as itself from
  there on.
-/
theorem WrittenWhole.document_eq
    (h : n.WrittenWhole lexeme)
    {negative : Bool}
    {rank : Fin Binary64.magnitudes}
    (hValue : n.value = .finite negative rank) :
    n.document =
      if units rank < signBit * unitsOfOne then
        .integer (wholePart rank)
      else
        .float n.value := by
  rcases h.isWhole hValue with ⟨rfl, hIsWhole⟩
  have hBound :
      wholePart rank < signBit ↔
        units rank < signBit * unitsOfOne :=
    Nat.div_lt_iff_lt_mul Binary64.unitsOfOne_pos
  rw [document_of_isWhole h.whole hValue hIsWhole]
  simp only [hBound]
  rfl

/-
  Digits that say less than 2^53 are read without rounding, so
  the whole number that is documented is the one they say.
-/
theorem WrittenWhole.document_of_small
    (h : n.WrittenWhole lexeme)
    (hSmall :
      Decimal.ofDigits lexeme < 2 * Binary64.significands) :
    n.document = .integer (Decimal.ofDigits lexeme) := by
  generalize hDigits : Decimal.ofDigits lexeme = k at hSmall ⊢
  have hUnits := (Binary64.units_nearestRank_whole k).2 hSmall
  have hFinite := Binary64.nearestRank_whole_lt hSmall
  have hValue :
      n.value =
        .finite false
          ⟨nearestRank (k * unitsOfOne) 1, hFinite⟩ := by
    rw [h.value_eq, hDigits, Binary64.nearest,
      Binary64.ofRank, dif_pos hFinite]
  have hBound :
      units (nearestRank (k * unitsOfOne) 1) <
        signBit * unitsOfOne := by
    rw [hUnits]
    apply Nat.mul_lt_mul_of_pos_right _ Binary64.unitsOfOne_pos
    exact Nat.lt_trans hSmall (by decide)
  have hPart :
      wholePart (nearestRank (k * unitsOfOne) 1) = k := by
    rw [wholePart, hUnits,
      Nat.mul_div_cancel _ Binary64.unitsOfOne_pos]
  rw [h.document_eq hValue, if_pos hBound, hPart]

end

/- A finite whole literal is not negative. -/
theorem FromSource.not_negative
    (h : n.FromSource)
    (hWhole : n.wholeLiteral = true)
    {negative : Bool}
    {rank : Fin Binary64.magnitudes}
    (hValue : n.value = .finite negative rank) :
    negative = false := by
  rcases h.written hWhole with ⟨lexeme, hWritten⟩
  exact (hWritten.isWhole hValue).1

/- A whole number is one magnitude, if not negative. -/
theorem FromSource.value_of_isInteger
    (hN : n.FromSource)
    (hM : m.FromSource)
    (hWholeN : n.wholeLiteral = true)
    (hWholeM : m.wholeLiteral = true)
    {k : Int}
    (hIntegerN : n.value.IsInteger k)
    (hIntegerM : m.value.IsInteger k) : n.value = m.value := by
  rcases hIntegerN with ⟨negative, rank, hValueN, hUnitsN⟩
  rcases hIntegerM with ⟨negative', rank', hValueM, hUnitsM⟩
  have hSignN := hN.not_negative hWholeN hValueN
  have hSignM := hM.not_negative hWholeM hValueM
  subst hSignN hSignM
  have hUnits : (units rank : Int) = units rank' :=
    hUnitsN.trans hUnitsM.symm
  have hRank : rank = rank' :=
    Fin.ext (Binary64.units_injective (Int.ofNat.inj hUnits))
  rw [hValueN, hValueM, hRank]

/- The document of a number tells its value. -/
theorem FromSource.value_of_document
    (hN : n.FromSource)
    (hM : m.FromSource)
    (h : n.document = m.document) : n.value = m.value := by
  rcases document_cases hN.finite with
    hFloat | ⟨hWholeN, k, hInteger⟩
  · exact (value_of_document_float (h ▸ hFloat)).symm
  · rcases document_cases hM.finite with
      hFloat | ⟨hWholeM, k', hInteger'⟩
    · rw [h, hFloat] at hInteger
      cases hInteger
    · rw [← h] at hInteger'
      have hSame : k' = k := by
        rw [hInteger'] at hInteger
        injection hInteger
      subst hSame
      exact
        hN.value_of_isInteger hM hWholeN hWholeM
          (isInteger_of_document hInteger')
          (isInteger_of_document (h ▸ hInteger'))

end Number

------------------------------------------------------------
-- Documents Of Values
------------------------------------------------------------

mutual

/- The numbers in a value, at any depth. -/
def Value.numbers : Value → List Number
  | .number n => [n]
  | .mapping fields => fields.numbers
  | .null | .boolean _ | .string _ => []

/- The numbers in the fields of an environment. -/
def Environment.numbers : Environment → List Number
  | .empty => []
  | .field _ value rest => value.numbers ++ rest.numbers

end

/- Only numbers have the documents of finite numbers. -/
theorem Value.document_ne_number
    {v : Value}
    {n : Number}
    (hNumber : ∀ m ∈ (Value.number n).numbers, m.FromSource)
    (hOther : ∀ m, v ≠ .number m) :
    v.document ≠ (Value.number n).document := by
  have hN : n.FromSource := hNumber n (by simp [numbers])
  change v.document ≠ n.document
  rcases n.document_cases hN.finite with
    hFloat | ⟨_, k, hInteger⟩
  · rw [hFloat]
    cases v with
    | number m => exact absurd rfl (hOther m)
    | _ => nofun
  · rw [hInteger]
    cases v with
    | number m => exact absurd rfl (hOther m)
    | _ => nofun

mutual

/- Values with the same document are equal. -/
theorem Value.same_of_document
    {v w : Value}
    (hV : ∀ n ∈ v.numbers, n.FromSource)
    (hW : ∀ n ∈ w.numbers, n.FromSource)
    (h : v.document = w.document) : v.same w = true := by
  cases v with
  | number n =>
      cases w with
      | number m =>
          have hN : n.FromSource :=
            hV n (by simp [Value.numbers])
          have hM : m.FromSource :=
            hW m (by simp [Value.numbers])
          exact Number.beq_iff.mpr (hN.value_of_document hM h)
      | _ =>
          exact
            absurd h.symm (Value.document_ne_number hV nofun)
  | null =>
      cases w with
      | null => rfl
      | number m =>
          exact absurd h (Value.document_ne_number hW nofun)
      | _ => cases h
  | boolean b =>
      cases w with
      | boolean b' =>
          injection h with hSame
          exact beq_iff_eq.mpr hSame
      | number m =>
          exact absurd h (Value.document_ne_number hW nofun)
      | _ => cases h
  | string s =>
      cases w with
      | string s' =>
          injection h with hSame
          exact beq_iff_eq.mpr hSame
      | number m =>
          exact absurd h (Value.document_ne_number hW nofun)
      | _ => cases h
  | mapping fields =>
      cases w with
      | mapping fields' =>
          injection h with hMembers
          exact Environment.same_of_members hV hW hMembers
      | number m =>
          exact absurd h (Value.document_ne_number hW nofun)
      | _ => cases h

/- So are environments. -/
theorem Environment.same_of_members
    {env env' : Environment}
    (hEnv : ∀ n ∈ env.numbers, n.FromSource)
    (hEnv' : ∀ n ∈ env'.numbers, n.FromSource)
    (h : env.members = env'.members) :
    env.same env' = true := by
  cases env with
  | empty =>
      cases env' with
      | empty => rfl
      | field key' value' rest' => cases h
  | field key value rest =>
      cases env' with
      | empty => cases h
      | field key' value' rest' =>
          injection h with hField hRest
          injection hField with hKey hValue
          rw [Environment.numbers, List.forall_mem_append]
            at hEnv hEnv'
          have hSame :=
            Value.same_of_document hEnv.1 hEnv'.1 hValue
          have hSameRest :=
            Environment.same_of_members hEnv.2 hEnv'.2 hRest
          simp [Environment.same, hKey, hSame, hSameRest]

end

/-
  Values of finite numbers that have the same document are
  equal, if their whole literals are those of lexemes.  A whole
  literal is documented by the double that it is read as: below
  2^63 as the whole number that this double is, and from 2^63
  on as a floating-point number.  The digits as written are
  sure to be documented exactly only if they say less than
  2^53; larger ones may have been rounded to the double, which
  can carry them up to 2^63.  No whole number in a document
  differs from the double of its number.
-/
theorem Value.faithful_documents :
    (∀ v w : Value,
        (∀ n ∈ v.numbers, n.FromSource) →
          (∀ n ∈ w.numbers, n.FromSource) →
            v.document = w.document → (v == w) = true) ∧
      (∀ (n : Number) lexeme,
        n.WrittenWhole lexeme →
          (∀ negative rank,
            n.value = .finite negative rank →
              (units rank < signBit * unitsOfOne →
                  ∃ k : Nat,
                    n.document = .integer k ∧
                      n.value.IsInteger k) ∧
                (signBit * unitsOfOne ≤ units rank →
                  n.document = .float n.value)) ∧
            (Decimal.ofDigits lexeme <
                2 * Binary64.significands →
              n.document =
                .integer (Decimal.ofDigits lexeme))) ∧
      (∀ (n : Number) k,
        n.document = .integer k → n.value.IsInteger k) := by
  refine
    ⟨fun v w hV hW h => same_of_document hV hW h, ?_,
      fun n k => Number.isInteger_of_document⟩
  intro n lexeme hWritten
  refine
    ⟨fun negative rank hValue => ?_,
      hWritten.document_of_small⟩
  refine ⟨fun hBelow => ?_, fun hAbove => ?_⟩
  · have hDocument :
        n.document = .integer (wholePart rank) := by
      rw [hWritten.document_eq hValue, if_pos hBelow]
    exact
      ⟨wholePart rank, hDocument,
        Number.isInteger_of_document hDocument⟩
  · rw [hWritten.document_eq hValue,
      if_neg (Nat.not_lt.mpr hAbove)]

/- Ten to the nineteenth, which is beyond 2^63. -/
def tenQuintillion : Binary64 :=
  .finite false ⟨0x43E158E460913D00, by decide⟩

/- A field with this number, written whole or not. -/
def Value.withQuintillions (wholeLiteral : Bool) : Value :=
  .mapping
    (.field "x" (.number ⟨tenQuintillion, wholeLiteral⟩)
      .empty)

/- The literal and the computed number have one document. -/
theorem Value.faithful_documents_quintillions :
    (withQuintillions true).document =
        (withQuintillions false).document ∧
      (withQuintillions true == withQuintillions false) =
        true := by
  have hRead :
      Number.ofNumeral? "10000000000000000000" =
        some ⟨tenQuintillion, true⟩ := by
    rw [Number.ofNumeral?,
      show Binary64.ofNumeral? "10000000000000000000" =
        some tenQuintillion by decide +kernel]
    rfl
  have hLexeme :
      Lexeme .number "10000000000000000000".toList :=
    .whole (by decide) (forall_mem_of_all (by decide))
  have hWritten :
      Number.WrittenWhole ⟨tenQuintillion, true⟩
        "10000000000000000000".toList :=
    ⟨hLexeme, hRead, rfl⟩
  have hLiteral :=
    (faithful_documents.2.1 _ _ hWritten).1 false _ rfl
  have hDocument :
      Number.document ⟨tenQuintillion, true⟩ =
        .float tenQuintillion :=
    hLiteral.2 (by decide +kernel)
  have hSource :
      ∀ wholeLiteral,
        ∀ n ∈ (withQuintillions wholeLiteral).numbers,
          n.FromSource := by
    intro wholeLiteral n hN
    have hSame : n = ⟨tenQuintillion, wholeLiteral⟩ := by
      simpa [withQuintillions, numbers, Environment.numbers]
        using hN
    subst hSame
    refine ⟨rfl, fun hWhole => ?_⟩
    rw [show wholeLiteral = true from hWhole]
    exact ⟨_, hWritten⟩
  have hSame :
      (withQuintillions true).document =
        (withQuintillions false).document := by
    simp only [withQuintillions, document, Environment.members,
      hDocument]
    rfl
  exact
    ⟨hSame,
      faithful_documents.1 _ _ (hSource true) (hSource false)
        hSame⟩

end Rulebook
