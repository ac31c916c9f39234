import Rulebook.Text.Units

/-
  The order of texts by their code units is the order of lists
  of numbers, and texts with the same units are the same.

  Key lemmas include:
    * `Units.compareLists_eq_compare`
    * `Units.compareTexts_swap`
    * `Units.ofChar_append_inj`
    * `Units.ofText_inj`
-/

namespace Rulebook.Units

------------------------------------------------------------
-- Order
------------------------------------------------------------

/- Lists of units are compared as lists of numbers are. -/
theorem compareLists_eq_compare (as bs : List Nat) :
    compareLists as bs = compare as bs := by
  fun_induction compareLists as bs with
  | case1 => exact List.compare_nil_nil.symm
  | case2 b bs => exact List.compare_nil_cons.symm
  | case3 a as => exact List.compare_cons_nil.symm
  | case4 a as b bs hLess =>
      rw [List.compare_cons_cons, Nat.compare_eq_lt.mpr hLess]
      rfl
  | case5 a as b bs hNot hGreater =>
      rw [List.compare_cons_cons,
        Nat.compare_eq_gt.mpr hGreater]
      rfl
  | case6 a as b bs hNot hNotGreater ih =>
      have hSame : a = b := by omega
      rw [List.compare_cons_cons, Nat.compare_eq_eq.mpr hSame]
      exact ih

/- Texts compared the other way round. -/
theorem compareTexts_swap (a b : String) :
    (compareTexts a b).swap = compareTexts b a := by
  unfold compareTexts
  rw [compareLists_eq_compare, compareLists_eq_compare]
  exact Std.OrientedOrd.eq_swap.symm

/- A text neither comes before nor behind itself. -/
theorem compareTexts_self (text : String) :
    compareTexts text text = .eq := by
  unfold compareTexts
  rw [compareLists_eq_compare]
  exact Std.ReflOrd.compare_self

------------------------------------------------------------
-- Units
------------------------------------------------------------

/- The units of texts in a row are in a row. -/
theorem ofText_append (front back : String) :
    ofText (front ++ back) = ofText front ++ ofText back := by
  simp [ofText]

/- No character is a surrogate. -/
theorem toNat_not_surrogate (c : Char) :
    c.toNat < 0xD800 ∨
      0xDFFF < c.toNat ∧ c.toNat < 0x110000 :=
  c.valid

/-
  Units tell where a character ends and which one it is: the
  first unit of a pair is a surrogate, and no character is one.
-/
theorem ofChar_append_inj
    {c d : Char}
    {us vs : List Nat}
    (h : ofChar c ++ us = ofChar d ++ vs) :
    c = d ∧ us = vs := by
  have hC := toNat_not_surrogate c
  have hD := toNat_not_surrogate d
  rw [← Char.toNat_inj]
  unfold ofChar at h
  split at h <;> split at h
  · simpa using h
  · simp only [List.cons_append, List.cons.injEq] at h
    omega
  · simp only [List.cons_append, List.cons.injEq] at h
    omega
  · simp only [List.cons_append, List.nil_append,
      List.cons.injEq] at h
    exact ⟨by omega, h.2.2⟩

/- No character is without units. -/
theorem ofChar_ne_nil (c : Char) : ofChar c ≠ [] := by
  unfold ofChar
  split <;> simp

/- Lists of characters with the same units are the same. -/
theorem flatMap_ofChar_inj
    {cs ds : List Char}
    (h : cs.flatMap ofChar = ds.flatMap ofChar) : cs = ds := by
  induction cs generalizing ds with
  | nil =>
      cases ds with
      | nil => rfl
      | cons d ds =>
          rw [List.flatMap_nil, List.flatMap_cons] at h
          have hNone := List.append_eq_nil_iff.mp h.symm
          exact absurd hNone.1 (ofChar_ne_nil d)
  | cons c cs ih =>
      cases ds with
      | nil =>
          rw [List.flatMap_nil, List.flatMap_cons] at h
          have hNone := List.append_eq_nil_iff.mp h
          exact absurd hNone.1 (ofChar_ne_nil c)
      | cons d ds =>
          rw [List.flatMap_cons, List.flatMap_cons] at h
          rcases ofChar_append_inj h with ⟨rfl, hMore⟩
          rw [ih hMore]

/- Texts with the same units are the same. -/
theorem ofText_inj {a b : String} :
    ofText a = ofText b ↔ a = b := by
  constructor
  · exact fun h => String.toList_inj.mp (flatMap_ofChar_inj h)
  · rintro rfl
    rfl

end Rulebook.Units
