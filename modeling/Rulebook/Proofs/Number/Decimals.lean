import Rulebook.Number.Shortest
import Rulebook.Proofs.Lists
import Rulebook.Proofs.Number.Rounding

/-
  Decimals and the numbers nearest to them.  Zeros at the end of
  a mantissa make no difference, and the shortest digits of a
  magnitude are read as this magnitude.

  Key definitions include:
    * `Decimal.numerator`
    * `Decimal.denominator`
    * `Decimal.rank`
    * `Digits.decimal`

  Main results:
    * `Decimal.nearest_eq`
    * `Decimal.nearest_scale`
    * `Decimal.nearest_ofMagnitude`
    * `Digits.nearest_shortest`
-/

namespace Rulebook

open Binary64 (unitsOfOne nearestRank units)

------------------------------------------------------------
-- Decimals As Quotients
------------------------------------------------------------

namespace Decimal

/- A decimal in units, as a quotient of whole numbers. -/
def numerator (d : Decimal) : Nat :=
  d.mantissa * 10 ^ d.exponent.toNat * unitsOfOne

def denominator (d : Decimal) : Nat :=
  10 ^ (-d.exponent).toNat

theorem denominator_pos (d : Decimal) : 0 < d.denominator :=
  Nat.pow_pos (by decide)

/- The rank of the magnitude that is nearest to a decimal. -/
def rank (d : Decimal) : Nat :=
  nearestRank d.numerator d.denominator

/- One has 1074 binary digits below it. -/
theorem exists_unitsOfOne :
    ∃ k, k = 1074 ∧ unitsOfOne = 2 ^ k := by
  -- The power must not be evaluated on the way.
  have hPow : ∃ k, k = 1074 ∧ unitsOfOne = Nat.pow 2 k := by
    refine ⟨_, rfl, ?_⟩
    delta unitsOfOne
    with_reducible rfl
  exact hPow

/- Powers of ten are above those of eight. -/
theorem two_pow_le_ten_pow
    {j k : Nat}
    (h : j ≤ 3 * k) : 2 ^ j ≤ 10 ^ k := by
  calc
    2 ^ j ≤ 2 ^ (3 * k) := Nat.pow_le_pow_right (by decide) h
    _ = 8 ^ k := by rw [Nat.pow_mul]
    _ ≤ 10 ^ k := Nat.pow_le_pow_left (by decide) k

/- A decimal with a large exponent is beyond all magnitudes. -/
theorem magnitudes_le_rank
    {d : Decimal}
    (hMantissa : d.mantissa ≠ 0)
    (hExponent : 400 < d.exponent) :
    Binary64.magnitudes ≤ d.rank := by
  have hOne : d.denominator = 1 := by
    have hPower : (-d.exponent).toNat = 0 := by omega
    rw [denominator, hPower, Nat.pow_zero]
  rcases exists_unitsOfOne with ⟨k, hUnits, hOfOne⟩
  have hPower :
      2 ^ (k + 100) ≤ d.mantissa * 10 ^ d.exponent.toNat :=
    calc
      2 ^ (k + 100) ≤ 10 ^ d.exponent.toNat :=
        two_pow_le_ten_pow (by omega)
      _ ≤ d.mantissa * 10 ^ d.exponent.toNat :=
        Nat.le_mul_of_pos_left _ (Nat.pos_of_ne_zero hMantissa)
  have hLarge : 2099 ≤ k + 100 + k := by omega
  apply Binary64.le_nearestRank_of_large hLarge
  rw [hOne, Nat.div_one, Nat.pow_add, numerator, hOfOne]
  exact Nat.mul_le_mul_right _ hPower

/- A decimal with a small exponent is below half a unit. -/
theorem rank_eq_zero
    {d : Decimal}
    (hExponent : d.exponent < -(d.mantissa.log2 + 400)) :
    d.rank = 0 := by
  apply Binary64.nearestRank_of_small
  have hPower : d.exponent.toNat = 0 := by omega
  have hMantissa : d.mantissa < 2 ^ (d.mantissa.log2 + 1) :=
    Nat.lt_log2_self
  rcases exists_unitsOfOne with ⟨k, hUnits, hOfOne⟩
  rw [numerator, denominator, hPower, Nat.pow_zero, Nat.mul_one,
    hOfOne]
  calc
    2 * (d.mantissa * 2 ^ k) = d.mantissa * 2 ^ (k + 1) := by
      rw [Nat.mul_left_comm, ← Nat.pow_succ']
    _ < 2 ^ (d.mantissa.log2 + 1) * 2 ^ (k + 1) :=
      Nat.mul_lt_mul_of_pos_right hMantissa
        (Nat.two_pow_pos _)
    _ = 2 ^ (d.mantissa.log2 + 1 + (k + 1)) :=
      (Nat.pow_add _ _ _).symm
    _ ≤ 10 ^ (-d.exponent).toNat :=
      two_pow_le_ten_pow (by omega)

/- The decimals of the mantissa zero are zero. -/
theorem rank_of_mantissa_eq_zero
    {d : Decimal}
    (hMantissa : d.mantissa = 0) : d.rank = 0 := by
  apply Binary64.nearestRank_of_small
  rw [numerator, hMantissa, Nat.zero_mul, Nat.zero_mul]
  exact d.denominator_pos

/- Every decimal is rounded as the quotient that it is. -/
theorem nearest_eq
    (negative : Bool)
    (d : Decimal) :
    d.nearest negative = .ofRank negative d.rank := by
  unfold Decimal.nearest
  split
  · rename_i hZero
    rw [rank_of_mantissa_eq_zero hZero]
    rfl
  split
  · rename_i hMantissa hLarge
    have hRank := magnitudes_le_rank hMantissa hLarge
    rw [Binary64.ofRank, dif_neg (Nat.not_lt.mpr hRank)]
  split
  · rename_i hSmall
    rw [rank_eq_zero hSmall]
    rfl
  split
  · rename_i hWhole
    have hPower : (-d.exponent).toNat = 0 := by omega
    rw [rank, numerator, denominator, hPower]
    rfl
  · rename_i hPart
    have hPower : d.exponent.toNat = 0 := by omega
    rw [rank, numerator, denominator, hPower, Nat.pow_zero,
      Nat.mul_one]
    rfl

/- A decimal that has a finite number nearest to it. -/
theorem rank_of_nearest
    {d : Decimal}
    {rank : Nat}
    (hRank : rank < Binary64.magnitudes)
    (h : d.nearest false = .ofRank false rank) :
    d.rank = rank := by
  rw [nearest_eq] at h
  unfold Binary64.ofRank at h
  rw [dif_pos hRank] at h
  split at h
  · injection h with _ hSame
    exact congrArg Fin.val hSame
  · cases h

/- Zeros at the end of a mantissa belong to the exponent. -/
theorem nearest_scale
    (negative : Bool)
    (m k : Nat)
    (e : Int) :
    Decimal.nearest negative ⟨m * 10 ^ k, e - k⟩ =
      Decimal.nearest negative ⟨m, e⟩ := by
  have hPowers :
      k + (e - k).toNat + (-e).toNat =
        e.toNat + (-(e - k)).toNat := by
    omega
  have hRank : rank ⟨m * 10 ^ k, e - k⟩ = rank ⟨m, e⟩ := by
    apply Binary64.nearestRank_congr (denominator_pos _)
      (denominator_pos _)
    simp only [numerator, denominator]
    generalize unitsOfOne = one
    calc
      m * 10 ^ k * 10 ^ (e - k).toNat * one *
            10 ^ (-e).toNat =
          m * 10 ^ (k + (e - k).toNat + (-e).toNat) * one := by
        rw [Nat.pow_add, Nat.pow_add]
        ring
      _ = m * 10 ^ e.toNat * one * 10 ^ (-(e - k)).toNat := by
        rw [hPowers, Nat.pow_add]
        ring
  rw [nearest_eq, nearest_eq, hRank]

------------------------------------------------------------
-- Magnitudes
------------------------------------------------------------

/- The exact decimal of a magnitude is that quotient. -/
theorem numerator_ofMagnitude (rank : Nat) :
    (ofMagnitude rank).numerator =
      units rank * (ofMagnitude rank).denominator := by
  rcases exists_unitsOfOne with ⟨k, hUnits, hOfOne⟩
  rw [Binary64.units_eq]
  unfold ofMagnitude
  rw [← hUnits]
  generalize Binary64.significand rank = significand
  generalize Binary64.shift rank = shift
  by_cases hLe : k ≤ shift
  · have hPower : 2 ^ shift = 2 ^ (shift - k) * 2 ^ k := by
      rw [← Nat.pow_add, Nat.sub_add_cancel hLe]
    simp [hLe, numerator, denominator, hOfOne, hPower,
      Nat.mul_assoc]
  · have hNumerator : ((shift : Int) - 1074).toNat = 0 := by
      omega
    have hDenominator :
        (-((shift : Int) - 1074)).toNat = k - shift := by
      omega
    have hPower : 2 ^ k = 2 ^ shift * 2 ^ (k - shift) := by
      rw [← Nat.pow_add, Nat.add_sub_cancel' (by omega)]
    have hTen :
        10 ^ (k - shift) = 5 ^ (k - shift) * 2 ^ (k - shift) := by
      rw [← Nat.mul_pow]
    simp only [hLe, if_false, numerator, denominator, hOfOne,
      hNumerator, hDenominator, hPower, hTen, Nat.pow_eq]
    ring

theorem nearest_ofMagnitude
    (negative : Bool)
    (rank : Nat) :
    (ofMagnitude rank).nearest negative =
      .ofRank negative rank := by
  rw [nearest_eq, Decimal.rank, numerator_ofMagnitude,
    Binary64.nearestRank_units (denominator_pos _)]

/- What is read as a magnitude is so under either sign. -/
theorem nearest_of_reads
    {d : Decimal}
    {rank : Nat}
    (hRank : rank < Binary64.magnitudes)
    (h : d.reads rank = true)
    (negative : Bool) :
    d.nearest negative = .ofRank negative rank := by
  have hRead : d.nearest false = .ofRank false rank := by
    simpa [reads] using h
  rw [nearest_eq, rank_of_nearest hRank hRead]

/- A decimal that is cut is still read as its magnitude. -/
theorem reads_of_cut
    {tie : Tie}
    {rank count : Nat}
    {d found : Decimal}
    (h : d.cut tie rank count = some found) :
    found.reads rank = true := by
  unfold cut at h
  simp only at h
  split at h
  · rename_i hLow
    split at h
    · rename_i hHigh
      cases h
      simp only [Bool.and_eq_true] at hHigh
      exact hHigh.1
    · cases h
      exact hLow
  · split at h
    · rename_i hHigh
      cases h
      exact hHigh
    · cases h

------------------------------------------------------------
-- Digits
------------------------------------------------------------

theorem ofDigits_eq (digits : List Char) :
    ofDigits digits = Nat.ofDigitChars 10 digits 0 :=
  Nat.ofDigitChars_eq_foldl.symm

theorem ofDigits_toDigits (n : Nat) :
    ofDigits (Nat.toDigits 10 n) = n := by
  rw [ofDigits_eq, Nat.ofDigitChars_ten_toDigits]

/- Zeros behind digits are factors of ten. -/
theorem ofDigits_append_zeros
    (digits : List Char)
    (n : Nat) :
    ofDigits (digits ++ List.replicate n '0') =
      ofDigits digits * 10 ^ n := by
  rw [ofDigits_eq, ofDigits_eq, Nat.ofDigitChars_append,
    Nat.ofDigitChars_replicate_zero, Nat.mul_comm]

/- Zeros before digits do not count. -/
theorem ofDigits_zeros_append
    (digits : List Char)
    (n : Nat) :
    ofDigits (List.replicate n '0' ++ digits) =
      ofDigits digits := by
  rw [ofDigits_eq, ofDigits_eq, Nat.ofDigitChars_append,
    Nat.ofDigitChars_replicate_zero, Nat.mul_zero]

end Decimal

namespace Digits

/- The decimal that digits with a point stand for. -/
def decimal (d : Digits) : Decimal :=
  ⟨Decimal.ofDigits d.digits, d.point - d.digits.length⟩

/- Only zeros are taken from the end. -/
theorem exists_zeros (digits : List Char) :
    ∃ n,
      digits =
        (digits.reverse.dropWhile (· == '0')).reverse ++
          List.replicate n '0' := by
  refine
    ⟨(digits.reverse.takeWhile (· == '0')).length, ?_⟩
  have hZeros :
      digits.reverse.takeWhile (· == '0') =
        List.replicate
          (digits.reverse.takeWhile (· == '0')).length '0' := by
    rw [List.eq_replicate_iff]
    refine ⟨rfl, fun c hC => ?_⟩
    simpa using of_mem_takeWhile c hC
  have hSplit :=
    congrArg List.reverse
      (List.takeWhile_append_dropWhile
        (p := (· == '0')) (l := digits.reverse))
  rw [List.reverse_append, List.reverse_reverse, hZeros,
    List.reverse_replicate] at hSplit
  simpa using hSplit.symm

/- The digits of a decimal stand for a number of its value. -/
theorem nearest_ofDecimal
    (negative : Bool)
    (d : Decimal) :
    (ofDecimal d).decimal.nearest negative =
      d.nearest negative := by
  rcases exists_zeros d.digits with ⟨n, hDigits⟩
  generalize hStripped :
    (d.digits.reverse.dropWhile (· == '0')).reverse = stripped
    at hDigits
  have hMantissa :
      d.mantissa = Decimal.ofDigits stripped * 10 ^ n := by
    rw [← Decimal.ofDigits_append_zeros, ← hDigits,
      Decimal.digits, Decimal.ofDigits_toDigits]
  have hLength : d.digits.length = stripped.length + n := by
    rw [hDigits, List.length_append, List.length_replicate]
  have hDecimal :
      d =
        ⟨Decimal.ofDigits stripped * 10 ^ n,
          (ofDecimal d).decimal.exponent - n⟩ := by
    rcases d with ⟨mantissa, exponent⟩
    simp only [Decimal.mk.injEq]
    refine ⟨hMantissa, ?_⟩
    simp only [ofDecimal, decimal, hStripped, hLength]
    push_cast
    ring
  calc
    (ofDecimal d).decimal.nearest negative =
        Decimal.nearest negative
          ⟨Decimal.ofDigits stripped,
            (ofDecimal d).decimal.exponent⟩ := by
      rw [decimal, ofDecimal, hStripped]
    _ = Decimal.nearest negative
          ⟨Decimal.ofDigits stripped * 10 ^ n,
            (ofDecimal d).decimal.exponent - n⟩ :=
      (Decimal.nearest_scale negative _ n _).symm
    _ = d.nearest negative := by rw [← hDecimal]

theorem isDigit_of_mem_ofDecimal
    {d : Decimal}
    {c : Char}
    (h : c ∈ (ofDecimal d).digits) : c.isDigit = true := by
  have hMem : c ∈ d.digits := by
    rcases exists_zeros d.digits with ⟨n, hDigits⟩
    rw [hDigits]
    exact List.mem_append_left _ h
  exact
    Nat.isDigit_of_mem_toDigits (by decide) (by decide) hMem

/- Only zero is all zeros. -/
theorem digits_ofDecimal_ne_nil
    {d : Decimal}
    (h : d.mantissa ≠ 0) : (ofDecimal d).digits ≠ [] := by
  intro hNil
  rcases exists_zeros d.digits with ⟨n, hDigits⟩
  have hStripped :
      (d.digits.reverse.dropWhile (· == '0')).reverse = [] :=
    hNil
  have hMantissa : d.mantissa = 0 := by
    rw [← Decimal.ofDigits_toDigits d.mantissa,
      ← Decimal.digits, hDigits, hStripped,
      Decimal.ofDigits_append_zeros, Decimal.ofDigits]
    simp
  exact h hMantissa

------------------------------------------------------------
-- Shortest Digits
------------------------------------------------------------

section

variable {rank : Nat}

/- The shortest digits are those of a decimal that is read. -/
theorem exists_shortest
    (hRank : rank < Binary64.magnitudes)
    (tie : Tie) :
    ∃ d,
      shortest tie rank = ofDecimal d ∧
        ∀ negative,
          d.nearest negative = .ofRank negative rank := by
  unfold shortest
  cases hCut :
      (List.range 17).findSome? fun i =>
        (Decimal.ofMagnitude rank).cut tie rank (i + 1) with
  | none =>
      refine ⟨Decimal.ofMagnitude rank, ?_, fun negative => ?_⟩
      · simp only [hCut, Option.getD_none]
      · exact Decimal.nearest_ofMagnitude negative rank
  | some d =>
      refine ⟨d, ?_, ?_⟩
      · simp only [hCut, Option.getD_some]
      · rcases List.exists_of_findSome?_eq_some hCut with
          ⟨i, _, hFound⟩
        exact
          Decimal.nearest_of_reads hRank
            (Decimal.reads_of_cut hFound)

/- They are read as the magnitude that they were taken from. -/
theorem nearest_shortest
    (hRank : rank < Binary64.magnitudes)
    (tie : Tie)
    (negative : Bool) :
    (shortest tie rank).decimal.nearest negative =
      .ofRank negative rank := by
  rcases exists_shortest hRank tie with ⟨d, hDigits, hRead⟩
  rw [hDigits, nearest_ofDecimal, hRead]

theorem isDigit_of_mem_shortest
    (hRank : rank < Binary64.magnitudes)
    {tie : Tie}
    {c : Char}
    (h : c ∈ (shortest tie rank).digits) :
    c.isDigit = true := by
  rcases exists_shortest hRank tie with ⟨d, hDigits, _⟩
  rw [hDigits] at h
  exact isDigit_of_mem_ofDecimal h

/- There are some, unless the magnitude is zero. -/
theorem digits_shortest_ne_nil
    (hRank : rank < Binary64.magnitudes)
    (hPositive : rank ≠ 0)
    (tie : Tie) : (shortest tie rank).digits ≠ [] := by
  rcases exists_shortest hRank tie with ⟨d, hDigits, hRead⟩
  rw [hDigits]
  apply digits_ofDecimal_ne_nil
  intro hZero
  apply hPositive
  rw [← Decimal.rank_of_nearest hRank (hRead false),
    Decimal.rank_of_mantissa_eq_zero hZero]

end

end Digits

end Rulebook
