import Mathlib.Tactic.Ring
import Rulebook.Number.Rounding

/-
  Rounding to the nearest binary number.  A rank is a shift and
  a significand; rounding depends on the rounded quotient
  alone, keeps its order, and leaves magnitudes as they are.

  Key definitions include:
    * `Binary64.quotientShift`
    * `Binary64.IsScaled`

  Main results:
    * `Binary64.units_nearestRank`
    * `Binary64.nearestRank_units`
    * `Binary64.units_injective`
    * `Binary64.nearestRank_congr`
    * `Binary64.nearestRank_mono`
    * `Binary64.le_nearestRank_of_large`
    * `Binary64.nearestRank_of_small`
-/

namespace Rulebook

------------------------------------------------------------
-- Halves To Even
------------------------------------------------------------

theorem halfEven_eq (num den : Nat) :
    halfEven num den =
      if 2 * (num % den) < den ∨
          2 * (num % den) = den ∧ num / den % 2 = 0 then
        num / den
      else
        num / den + 1 := by
  simp [halfEven]

theorem le_halfEven (num den : Nat) :
    num / den ≤ halfEven num den := by
  rw [halfEven_eq]
  split <;> omega

theorem halfEven_le (num den : Nat) :
    halfEven num den ≤ num / den + 1 := by
  rw [halfEven_eq]
  split <;> omega

/- A whole quotient is not rounded. -/
theorem halfEven_mul
    {den : Nat}
    (h : 0 < den)
    (q : Nat) : halfEven (q * den) den = q := by
  rw [halfEven_eq, Nat.mul_mod_left, Nat.mul_div_cancel q h]
  simp [h]

/- Less than a half is rounded to zero. -/
theorem halfEven_of_small
    {num den : Nat}
    (h : 2 * num < den) : halfEven num den = 0 := by
  have hLess : num < den := by omega
  rw [halfEven_eq, Nat.mod_eq_of_lt hLess,
    Nat.div_eq_of_lt hLess]
  simp [h]

/- Only the quotient counts. -/
theorem halfEven_scale
    {k : Nat}
    (h : 0 < k)
    (num den : Nat) :
    halfEven (num * k) (den * k) = halfEven num den := by
  have hRest :
      2 * (num * k % (den * k)) = 2 * (num % den) * k := by
    rw [Nat.mul_mod_mul_right, Nat.mul_assoc]
  simp only [halfEven_eq, hRest, Nat.mul_div_mul_right _ _ h,
    Nat.mul_lt_mul_right h, Nat.mul_left_inj (Nat.ne_of_gt h)]

/- Larger quotients are not rounded to smaller numbers. -/
theorem halfEven_mono
    {a b : Nat}
    (den : Nat)
    (h : a ≤ b) : halfEven a den ≤ halfEven b den := by
  have hBelow : a / den ≤ b / den := Nat.div_le_div_right h
  rcases Nat.eq_or_lt_of_le hBelow with hSame | hLess
  · -- With one whole part, the parts that are left compare.
    have hLeft : a % den ≤ b % den := by
      have hA := Nat.div_add_mod a den
      have hB := Nat.div_add_mod b den
      rw [hSame] at hA
      omega
    rw [halfEven_eq, halfEven_eq, hSame]
    split <;> split <;> omega
  · calc
      halfEven a den ≤ a / den + 1 := halfEven_le a den
      _ ≤ b / den := hLess
      _ ≤ halfEven b den := le_halfEven b den

namespace Binary64

------------------------------------------------------------
-- Shifts And Significands
------------------------------------------------------------

theorem two_significands : 2 * significands = 2 ^ 53 :=
  rfl

/-
  A significand under a shift.  Below the least exponent it may
  be small, and the largest is the least one of the next shift.
-/
structure IsScaled (shift significand : Nat) : Prop where
  le_double : significand ≤ 2 * significands
  normal : shift = 0 ∨ significands ≤ significand

/- The rank of a shift and a significand has their magnitude. -/
theorem units_of_isScaled
    {shift significand : Nat}
    (h : IsScaled shift significand) :
    units (shift * significands + significand) =
      significand * 2 ^ shift := by
  rcases h with ⟨hLe, hNormal⟩
  rcases Nat.eq_or_lt_of_le hLe with hDouble | hLess
  · -- The significand moves into the next shift.
    have hShift :
        Binary64.shift (shift * significands + significand) =
          shift + 1 := by
      unfold Binary64.shift significands at *
      omega
    have hSignificand :
        Binary64.significand
            (shift * significands + significand) =
          significands := by
      unfold Binary64.significand
      rw [hShift]
      unfold significands at *
      omega
    rw [units, hShift, hSignificand, hDouble, Nat.pow_eq,
      Nat.pow_succ]
    ring
  · have hShift :
        Binary64.shift (shift * significands + significand) =
          shift := by
      unfold Binary64.shift significands at *
      omega
    have hSignificand :
        Binary64.significand
            (shift * significands + significand) =
          significand := by
      unfold Binary64.significand
      rw [hShift]
      omega
    rw [units, hShift, hSignificand, Nat.pow_eq]

/- A rank is put together from its shift and its significand. -/
theorem shift_significand (rank : Nat) :
    shift rank * significands + significand rank = rank := by
  unfold significand shift significands
  omega

theorem significand_lt (rank : Nat) :
    significand rank < 2 * significands := by
  unfold significand shift significands
  omega

theorem isScaled_rank (rank : Nat) :
    IsScaled (shift rank) (significand rank) := by
  refine ⟨Nat.le_of_lt (significand_lt rank), ?_⟩
  unfold significand shift significands
  omega

------------------------------------------------------------
-- The Shift Of A Quotient
------------------------------------------------------------

/- The shift under which a whole part is a significand. -/
def quotientShift (quotient : Nat) : Nat :=
  quotient.log2 - 52

theorem nearestRank_eq (num den : Nat) :
    nearestRank num den =
      quotientShift (num / den) * significands +
        halfEven num (den * 2 ^ quotientShift (num / den)) :=
  rfl

/- What is left of a quotient has 53 binary digits at most. -/
theorem div_quotientShift_lt (q : Nat) :
    q / 2 ^ quotientShift q < 2 * significands := by
  have hBound : q < 2 ^ (q.log2 + 1) := Nat.lt_log2_self
  have hPow :
      2 ^ (q.log2 + 1) ≤ 2 ^ (53 + quotientShift q) := by
    apply Nat.pow_le_pow_right (by decide)
    unfold quotientShift
    omega
  rw [Nat.div_lt_iff_lt_mul (Nat.two_pow_pos _)]
  calc
    q < 2 ^ (q.log2 + 1) := hBound
    _ ≤ 2 ^ (53 + quotientShift q) := hPow
    _ = 2 * significands * 2 ^ quotientShift q := by
        rw [Nat.pow_add, two_significands]

/- It has no fewer, unless it was not shifted. -/
theorem le_div_quotientShift
    {q : Nat}
    (h : quotientShift q ≠ 0) :
    significands ≤ q / 2 ^ quotientShift q := by
  have hLog : q.log2 = 52 + quotientShift q := by
    unfold quotientShift at *
    omega
  have hZero : q ≠ 0 := by
    rintro rfl
    exact h (by simp [quotientShift])
  rw [Nat.le_div_iff_mul_le (Nat.two_pow_pos _)]
  calc
    significands * 2 ^ quotientShift q = 2 ^ q.log2 := by
      rw [hLog, Nat.pow_add]
    _ ≤ q := Nat.log2_self_le hZero

/- The shift is what a quotient has beyond 53 digits. -/
theorem quotientShift_le
    {q k : Nat}
    (h : q < 2 ^ (53 + k)) : quotientShift q ≤ k := by
  rcases Nat.eq_zero_or_pos q with rfl | hPos
  · simp [quotientShift]
  · have hLog := (Nat.log2_lt (Nat.ne_of_gt hPos)).mpr h
    unfold quotientShift
    omega

/- A shifted significand has its own shift. -/
theorem quotientShift_mul_two_pow
    {shift significand : Nat}
    (h : IsScaled shift significand)
    (hLess : significand < 2 * significands) :
    quotientShift (significand * 2 ^ shift) = shift := by
  rw [two_significands] at hLess
  rcases h.normal with rfl | hNormal
  · rw [Nat.pow_zero, Nat.mul_one]
    exact Nat.le_zero.mp (quotientShift_le hLess)
  · have hPow := Nat.two_pow_pos shift
    have hZero : significand * 2 ^ shift ≠ 0 := by
      apply Nat.mul_ne_zero _ (Nat.ne_of_gt hPow)
      intro hZero
      simp [hZero, significands] at hNormal
    have hLog :
        (significand * 2 ^ shift).log2 = 52 + shift := by
      rw [Nat.log2_eq_iff hZero]
      constructor
      · rw [Nat.pow_add]
        exact Nat.mul_le_mul_right _ hNormal
      · rw [Nat.add_right_comm, Nat.pow_add]
        exact Nat.mul_lt_mul_of_pos_right hLess hPow
    rw [quotientShift, hLog]
    omega

theorem quotientShift_mono
    {a b : Nat}
    (h : a ≤ b) : quotientShift a ≤ quotientShift b := by
  rcases Nat.eq_zero_or_pos a with rfl | hPos
  · simp [quotientShift]
  · apply Nat.sub_le_sub_right
    rw [Nat.le_log2 (by omega)]
    exact Nat.le_trans (Nat.log2_self_le (by omega)) h

------------------------------------------------------------
-- Ranks
------------------------------------------------------------

/- A rounded quotient is a significand under its shift. -/
theorem isScaled_nearest (num den : Nat) :
    IsScaled (quotientShift (num / den))
      (halfEven num
        (den * 2 ^ quotientShift (num / den))) := by
  have hDiv :
      num / (den * 2 ^ quotientShift (num / den)) =
        num / den / 2 ^ quotientShift (num / den) :=
    (Nat.div_div_eq_div_mul _ _ _).symm
  constructor
  · have hLess := div_quotientShift_lt (num / den)
    rw [← hDiv] at hLess
    exact Nat.le_trans (halfEven_le _ _) hLess
  · by_cases hShift : quotientShift (num / den) = 0
    · exact .inl hShift
    · have hLe := le_div_quotientShift hShift
      rw [← hDiv] at hLe
      exact .inr (Nat.le_trans hLe (le_halfEven _ _))

/- The magnitude of a rounded quotient. -/
theorem units_nearestRank (num den : Nat) :
    units (nearestRank num den) =
      halfEven num (den * 2 ^ quotientShift (num / den)) *
        2 ^ quotientShift (num / den) := by
  rw [nearestRank_eq]
  exact units_of_isScaled (isScaled_nearest num den)

theorem units_eq (rank : Nat) :
    units rank = significand rank * 2 ^ shift rank :=
  rfl

/- A magnitude is rounded to itself. -/
theorem nearestRank_units
    {den : Nat}
    (h : 0 < den)
    (rank : Nat) : nearestRank (units rank * den) den = rank := by
  have hShift :
      quotientShift (units rank) = shift rank := by
    rw [units_eq]
    exact
      quotientShift_mul_two_pow (isScaled_rank rank)
        (significand_lt rank)
  have hProduct :
      units rank * den =
        significand rank * (den * 2 ^ shift rank) := by
    rw [units_eq]
    ring
  rw [nearestRank_eq, Nat.mul_div_cancel _ h, hShift, hProduct,
    halfEven_mul (Nat.mul_pos h (Nat.two_pow_pos _)),
    shift_significand]

/- Ranks tell magnitudes apart. -/
theorem units_injective
    {a b : Nat}
    (h : units a = units b) : a = b := by
  rw [← nearestRank_units Nat.one_pos a, h,
    nearestRank_units Nat.one_pos b]

------------------------------------------------------------
-- Quotients
------------------------------------------------------------

theorem nearestRank_scale
    {k : Nat}
    (h : 0 < k)
    (num den : Nat) :
    nearestRank (num * k) (den * k) = nearestRank num den := by
  rw [nearestRank_eq, nearestRank_eq,
    Nat.mul_div_mul_right _ _ h, Nat.mul_right_comm den k,
    halfEven_scale h]

/- Equal quotients are rounded to one number. -/
theorem nearestRank_congr
    {num den num' den' : Nat}
    (hDen : 0 < den)
    (hDen' : 0 < den')
    (h : num * den' = num' * den) :
    nearestRank num den = nearestRank num' den' := by
  rw [← nearestRank_scale hDen' num den, h,
    Nat.mul_comm den den', nearestRank_scale hDen]

/- A larger quotient has no lower rank. -/
theorem nearestRank_mono_left
    {a b : Nat}
    (den : Nat)
    (h : a ≤ b) : nearestRank a den ≤ nearestRank b den := by
  have hShift :
      quotientShift (a / den) ≤ quotientShift (b / den) :=
    quotientShift_mono (Nat.div_le_div_right h)
  rcases Nat.eq_or_lt_of_le hShift with hSame | hLess
  · rw [nearestRank_eq, nearestRank_eq, hSame]
    exact Nat.add_le_add_left (halfEven_mono _ h) _
  · -- A significand never reaches the second shift above it.
    have hA := (isScaled_nearest a den).le_double
    have hB := (isScaled_nearest b den).normal.resolve_left
      (by omega)
    rw [nearestRank_eq, nearestRank_eq]
    have hRow :
        quotientShift (a / den) * significands +
            2 * significands ≤
          quotientShift (b / den) * significands +
            significands := by
      unfold significands
      omega
    omega

theorem nearestRank_mono
    {num den num' den' : Nat}
    (hDen : 0 < den)
    (hDen' : 0 < den')
    (h : num * den' ≤ num' * den) :
    nearestRank num den ≤ nearestRank num' den' := by
  rw [← nearestRank_scale hDen' num den,
    ← nearestRank_scale hDen num' den', Nat.mul_comm den' den]
  exact nearestRank_mono_left _ h

/- What is too large has no finite rank. -/
theorem le_nearestRank_of_large
    {num den k : Nat}
    (hLarge : 2099 ≤ k)
    (h : 2 ^ k ≤ num / den) :
    magnitudes ≤ nearestRank num den := by
  have hZero : num / den ≠ 0 := by
    have := Nat.two_pow_pos k
    omega
  have hShift : 2047 ≤ quotientShift (num / den) := by
    have hLog := (Nat.le_log2 hZero).mpr h
    unfold quotientShift
    omega
  calc
    magnitudes = 2047 * significands := rfl
    _ ≤ quotientShift (num / den) * significands :=
        Nat.mul_le_mul_right _ hShift
    _ ≤ nearestRank num den := Nat.le_add_right _ _

/- Less than half a unit is rounded to zero. -/
theorem nearestRank_of_small
    {num den : Nat}
    (h : 2 * num < den) : nearestRank num den = 0 := by
  have hQuotient : num / den = 0 :=
    Nat.div_eq_of_lt (by omega)
  have hShift : quotientShift 0 = 0 := by decide
  rw [nearestRank_eq, hQuotient, hShift, Nat.pow_zero,
    Nat.mul_one, Nat.zero_mul, halfEven_of_small h]

end Binary64

end Rulebook
