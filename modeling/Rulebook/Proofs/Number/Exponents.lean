import Rulebook.Number
import Rulebook.Proofs.Number.Decimals

/-
  When a text has an exponent.  The exponent of the shortest
  digits tells between which powers of ten a number lies, so a
  layout that chooses by the exponent chooses by the magnitude.

  Key definitions include:
    * `Number.thousandth`
    * `Number.tenMillion`

  Main results:
    * `Digits.lt_point_iff`
    * `Number.magnitude_computed`
-/

namespace Rulebook

open Binary64 (magnitudes unitsOfOne)

------------------------------------------------------------
-- Powers Of Ten
------------------------------------------------------------

namespace Decimal

/-
  A larger decimal has no lower rank.  The mantissas are
  compared after `j` and `j'` places have been moved.
-/
theorem rank_mono
    {m m' : Nat}
    {e e' : Int}
    (j j' : Nat)
    (hMantissa : m * 10 ^ j ≤ m' * 10 ^ j')
    (hExponent : e + j' ≤ e' + j) :
    rank ⟨m, e⟩ ≤ rank ⟨m', e'⟩ := by
  apply Binary64.nearestRank_mono (denominator_pos _)
    (denominator_pos _)
  simp only [numerator, denominator]
  have hPowers :
      e.toNat + (-e').toNat + j' ≤
        e'.toNat + (-e).toNat + j := by
    omega
  have hScaled :
      m * 10 ^ (e.toNat + (-e').toNat) * 10 ^ j' ≤
        m' * 10 ^ (e'.toNat + (-e).toNat) * 10 ^ j' :=
    calc
      m * 10 ^ (e.toNat + (-e').toNat) * 10 ^ j' =
          m * 10 ^ (e.toNat + (-e').toNat + j') := by
        rw [Nat.mul_assoc, ← Nat.pow_add]
      _ ≤ m * 10 ^ (e'.toNat + (-e).toNat + j) :=
        Nat.mul_le_mul_left _
          (Nat.pow_le_pow_right (by decide) hPowers)
      _ = m * 10 ^ j * 10 ^ (e'.toNat + (-e).toNat) := by
        rw [Nat.add_comm, Nat.pow_add, Nat.mul_assoc]
      _ ≤ m' * 10 ^ j' * 10 ^ (e'.toNat + (-e).toNat) :=
        Nat.mul_le_mul_right _ hMantissa
      _ = m' * 10 ^ (e'.toNat + (-e).toNat) * 10 ^ j' :=
        Nat.mul_right_comm _ _ _
  have hTen : 0 < 10 ^ j' := Nat.pow_pos (by decide)
  have hLe := Nat.le_of_mul_le_mul_right hScaled hTen
  calc
    m * 10 ^ e.toNat * unitsOfOne * 10 ^ (-e').toNat =
        m * 10 ^ (e.toNat + (-e').toNat) * unitsOfOne := by
      rw [Nat.pow_add]
      ring
    _ ≤ m' * 10 ^ (e'.toNat + (-e).toNat) * unitsOfOne :=
      Nat.mul_le_mul_right _ hLe
    _ = m' * 10 ^ e'.toNat * unitsOfOne * 10 ^ (-e).toNat := by
      rw [Nat.pow_add]
      ring

/- As many digits as it has bound a mantissa. -/
theorem mantissa_lt (d : Decimal) :
    d.mantissa < 10 ^ d.digits.length :=
  (Nat.length_toDigits_le_iff (by decide)
    Nat.length_toDigits_pos).mp (Nat.le_refl _)

/- It is not below the power of its first digit. -/
theorem le_mantissa
    {d : Decimal}
    (h : d.mantissa ≠ 0) :
    10 ^ (d.digits.length - 1) ≤ d.mantissa := by
  rcases Nat.eq_zero_or_pos (d.digits.length - 1) with
    hZero | hPos
  · rw [hZero, Nat.pow_zero]
    exact Nat.pos_of_ne_zero h
  · apply Nat.le_of_not_lt
    intro hLess
    have hLength : d.digits.length ≤ d.digits.length - 1 :=
      (Nat.length_toDigits_le_iff (by decide) hPos).mpr hLess
    omega

end Decimal

------------------------------------------------------------
-- Exponents
------------------------------------------------------------

namespace Digits

/-
  The first digit of a magnitude stands above a power of ten
  just if the magnitude is not below this power.  The power
  itself must show its exponent, for it may have been rounded.
-/
theorem lt_point_iff
    {rank : Nat}
    (hRank : rank < magnitudes)
    (hPositive : rank ≠ 0)
    {tie : Tie}
    {e : Int}
    (hPower :
      (shortest tie (Decimal.rank ⟨1, e⟩)).point = e + 1) :
    e < (shortest tie rank).point ↔
      Decimal.rank ⟨1, e⟩ ≤ rank := by
  rcases exists_shortest hRank tie with ⟨d, hDigits, hRead⟩
  have hSame : d.rank = rank :=
    Decimal.rank_of_nearest hRank (hRead false)
  have hPoint :
      (shortest tie rank).point =
        d.exponent + d.digits.length := by
    rw [hDigits]
    rfl
  have hLength : 0 < d.digits.length :=
    Nat.length_toDigits_pos
  constructor
  · intro hLess
    have hMantissa : d.mantissa ≠ 0 := by
      intro hZero
      apply hPositive
      rw [← hSame, Decimal.rank_of_mantissa_eq_zero hZero]
    rw [← hSame]
    apply Decimal.rank_mono (d.digits.length - 1) 0
    · rw [Nat.one_mul, Nat.pow_zero, Nat.mul_one]
      exact Decimal.le_mantissa hMantissa
    · omega
  · intro hLe
    apply Int.lt_of_not_ge
    intro hNot
    have hGe : rank ≤ Decimal.rank ⟨1, e⟩ := by
      rw [← hSame]
      apply Decimal.rank_mono 0 d.digits.length
      · rw [Nat.one_mul, Nat.pow_zero, Nat.mul_one]
        exact Nat.le_of_lt d.mantissa_lt
      · omega
    have hEqual := Nat.le_antisymm hLe hGe
    rw [hEqual] at hPower
    omega

end Digits

------------------------------------------------------------
-- Positional Texts
------------------------------------------------------------

namespace Number

/- The ranks of 0.001 and of 10000000. -/
def thousandth : Nat :=
  0x3F50624DD2F1A9FC

def tenMillion : Nat :=
  0x416312D000000000

theorem rank_thousandth :
    Decimal.rank ⟨1, -3⟩ = thousandth := by
  decide +kernel

theorem rank_tenMillion :
    Decimal.rank ⟨1, 7⟩ = tenMillion := by
  decide +kernel

/- Each of them is written as the power of ten that it is. -/
theorem point_thousandth :
    (Digits.shortest computedLayout.tie
      (Decimal.rank ⟨1, -3⟩)).point = -3 + 1 := by
  rw [rank_thousandth]
  decide +kernel

theorem point_tenMillion :
    (Digits.shortest computedLayout.tie
      (Decimal.rank ⟨1, 7⟩)).point = 7 + 1 := by
  rw [rank_tenMillion]
  decide +kernel

/-
  A computed number has an exponent in its text unless its
  magnitude is zero or lies between a thousandth and ten
  million.
-/
theorem magnitude_computed
    {rank : Nat}
    (hRank : rank < magnitudes) :
    computedLayout.magnitude rank =
      if rank = 0 then ['0', '.', '0']
      else if thousandth ≤ rank ∧ rank < tenMillion then
        computedLayout.positional
          (Digits.shortest computedLayout.tie rank)
      else
        computedLayout.scientific
          (Digits.shortest computedLayout.tie rank) := by
  by_cases hZero : rank = 0
  · have hText :
        computedLayout.positional ⟨['0'], 1⟩ =
          ['0', '.', '0'] := by
      decide
    rw [Layout.magnitude, if_pos hZero, if_pos hZero, hText]
  · have hLow :=
      Digits.lt_point_iff hRank hZero point_thousandth
    have hHigh :=
      Digits.lt_point_iff hRank hZero point_tenMillion
    rw [rank_thousandth] at hLow
    rw [rank_tenMillion] at hHigh
    have hChoice :
        computedLayout.isPositional
            ((Digits.shortest computedLayout.tie rank).point -
              1) = true ↔
          thousandth ≤ rank ∧ rank < tenMillion := by
      rw [← hLow, ← Nat.not_le, ← hHigh]
      simp only [computedLayout, Bool.and_eq_true,
        decide_eq_true_eq]
      omega
    rw [Layout.magnitude, if_neg hZero, if_neg hZero]
    simp only [hChoice]

end Number

end Rulebook
