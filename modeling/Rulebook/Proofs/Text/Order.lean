import Mathlib.Data.String.Basic
import Rulebook.Proofs.Text.Units

/-
  The order of texts by their code units is an order by their
  characters: that of the code points, but with the characters
  above U+FFFF in front of U+E000, since they are written with
  surrogates.

  Key definitions include:
    * `Units.zone`
    * `Units.compareChars`
    * `Units.Overtakes`

  Main results:
    * `Units.compareLex_ne_iff`
    * `Units.compareChars_ne_compare_iff`
    * `Units.compareLists_ofChar_append`
    * `Units.compareTexts_eq_compareLex`
    * `Units.compareTexts_by_characters`
-/

namespace Rulebook.Units

------------------------------------------------------------
-- First Differences
------------------------------------------------------------

section

variable {α : Type}
variable {f g : α → α → Ordering}

/- What two lists have in front does not matter. -/
theorem compareLex_append_self
    (hSelf : ∀ c, f c c = .eq)
    (front cs ds : List α) :
    (front ++ cs).compareLex f (front ++ ds) =
      cs.compareLex f ds := by
  induction front with
  | nil => rfl
  | cons c front ih =>
      rw [List.cons_append, List.cons_append,
        List.compareLex_cons_cons, hSelf, ih]
      rfl

/- First elements that differ decide. -/
theorem compareLex_cons_of_ne
    {c d : α}
    (cs ds : List α)
    (h : f c d ≠ .eq) :
    (c :: cs).compareLex f (d :: ds) = f c d := by
  rw [List.compareLex_cons_cons]
  cases hOrder : f c d with
  | eq => exact absurd hOrder h
  | lt => rfl
  | gt => rfl

/-
  Two ways to compare elements order two lists differently
  exactly if they order the first two elements differently in
  which the lists differ.
-/
theorem compareLex_ne_iff
    (hF : ∀ c d, f c d = .eq ↔ c = d)
    (hG : ∀ c d, g c d = .eq ↔ c = d)
    {cs ds : List α} :
    cs.compareLex f ds ≠ cs.compareLex g ds ↔
      ∃ front c d cMore dMore,
        cs = front ++ c :: cMore ∧
          ds = front ++ d :: dMore ∧
          f c d ≠ g c d := by
  constructor
  · intro h
    induction cs generalizing ds with
    | nil => cases ds <;> exact absurd rfl h
    | cons c cs ih =>
        cases ds with
        | nil => exact absurd rfl h
        | cons d ds =>
            by_cases hSame : c = d
            · subst d
              rw [List.compareLex_cons_cons,
                List.compareLex_cons_cons, (hF c c).mpr rfl,
                (hG c c).mpr rfl] at h
              rcases ih h with
                ⟨front, a, b, cMore, dMore, rfl, rfl, hHere⟩
              exact
                ⟨c :: front, a, b, cMore, dMore, rfl, rfl,
                  hHere⟩
            · have hNotF := mt (hF c d).mp hSame
              have hNotG := mt (hG c d).mp hSame
              rw [compareLex_cons_of_ne _ _ hNotF,
                compareLex_cons_of_ne _ _ hNotG] at h
              exact ⟨[], c, d, cs, ds, rfl, rfl, h⟩
  · rintro ⟨front, c, d, cMore, dMore, rfl, rfl, h⟩
    have hSelfF : ∀ c, f c c = .eq := fun c => (hF c c).mpr rfl
    have hSelfG : ∀ c, g c c = .eq := fun c => (hG c c).mpr rfl
    have hDiffer : c ≠ d := by
      rintro rfl
      exact h ((hSelfF c).trans (hSelfG c).symm)
    rw [compareLex_append_self hSelfF,
      compareLex_append_self hSelfG,
      compareLex_cons_of_ne _ _ (mt (hF c d).mp hDiffer),
      compareLex_cons_of_ne _ _ (mt (hG c d).mp hDiffer)]
    exact h

end

------------------------------------------------------------
-- Characters
------------------------------------------------------------

/-
  Where a character comes by its first unit: before the
  surrogates, with a surrogate, or behind them.
-/
def zone (c : Char) : Nat :=
  if c.toNat ≤ 0xD7FF then 0
  else if 0xFFFF < c.toNat then 1
  else 2

/- Characters by their zones, in a zone by their code points. -/
def compareChars (c d : Char) : Ordering :=
  (compare (zone c) (zone d)).then (compare c d)

/-
  The first character has the greater code point and comes
  first all the same.
-/
def Overtakes (c d : Char) : Prop :=
  0xFFFF < c.toNat ∧ 0xE000 ≤ d.toNat ∧ d.toNat ≤ 0xFFFF

theorem lt_iff_toNat_lt {c d : Char} :
    c < d ↔ c.toNat < d.toNat :=
  Iff.rfl

theorem compareChars_eq_iff {c d : Char} :
    compareChars c d = .eq ↔ c = d := by
  unfold compareChars
  rw [Ordering.then_eq_eq, compare_eq_iff_eq,
    compare_eq_iff_eq]
  constructor
  · exact And.right
  · rintro rfl
    exact ⟨rfl, rfl⟩

/- A character overtakes one with a lesser code point. -/
theorem Overtakes.lt
    {c d : Char}
    (h : Overtakes c d) : d < c :=
  lt_iff_toNat_lt.mpr (Nat.lt_of_le_of_lt h.2.2 h.1)

/-
  Either the first character overtakes, or it has the lesser
  code point and is not overtaken.
-/
theorem compareChars_eq_lt_iff {c d : Char} :
    compareChars c d = .lt ↔
      Overtakes c d ∨ c < d ∧ ¬ Overtakes d c := by
  have hC := toNat_not_surrogate c
  have hD := toNat_not_surrogate d
  unfold compareChars
  rw [Ordering.then_eq_lt, compare_lt_iff_lt,
    compare_eq_iff_eq, compare_lt_iff_lt, lt_iff_toNat_lt]
  unfold zone Overtakes
  split_ifs <;> omega

theorem compareChars_swap (c d : Char) :
    (compareChars c d).swap = compareChars d c := by
  unfold compareChars
  rw [Ordering.swap_then, ← Std.OrientedOrd.eq_swap,
    ← Std.OrientedOrd.eq_swap]

/- The lesser code point comes first if it is not overtaken. -/
theorem compareChars_ne_compare_iff_of_lt
    {c d : Char}
    (h : c < d) :
    compareChars c d ≠ compare c d ↔ Overtakes d c := by
  have hNot : ¬ Overtakes c d := fun hOver =>
    absurd hOver.lt (lt_asymm h)
  rw [compare_lt_iff_lt.mpr h, Ne, compareChars_eq_lt_iff]
  simp [h, hNot]

/-
  The two orders of characters differ exactly where one of the
  characters overtakes the other.
-/
theorem compareChars_ne_compare_iff {c d : Char} :
    compareChars c d ≠ compare c d ↔
      Overtakes c d ∨ Overtakes d c := by
  rcases lt_trichotomy c d with h | rfl | h
  · have hNot : ¬ Overtakes c d := fun hOver =>
      absurd hOver.lt (lt_asymm h)
    rw [compareChars_ne_compare_iff_of_lt h, or_iff_right hNot]
  · have hNot : ¬ Overtakes c c := fun hOver =>
      lt_irrefl c hOver.lt
    simp [compareChars, hNot]
  · have hNot : ¬ Overtakes d c := fun hOver =>
      absurd hOver.lt (lt_asymm h)
    rw [or_iff_left hNot,
      ← compareChars_ne_compare_iff_of_lt h,
      ← compareChars_swap, Std.OrientedOrd.eq_swap, Ne,
      Ordering.swap_inj]

------------------------------------------------------------
-- Units
------------------------------------------------------------

theorem compareLists_append_self (front us vs : List Nat) :
    compareLists (front ++ us) (front ++ vs) =
      compareLists us vs := by
  rw [compareLists_eq_compare, compareLists_eq_compare,
    List.compare_eq_compareLex,
    compareLex_append_self fun _ => compare_eq_iff_eq.mpr rfl]

/- The first units decide if they differ. -/
theorem compareLists_cons_lt
    {a b : Nat}
    (us vs : List Nat)
    (h : a < b) : compareLists (a :: us) (b :: vs) = .lt :=
  if_pos h

/-
  The units of a character that comes first are the lesser
  ones, whatever follows.  A surrogate is a greater unit than
  those before U+D800 and a lesser one than those behind U+DFFF,
  and pairs are ordered as the characters that they stand for.
-/
theorem compareLists_of_before
    {c d : Char}
    (us vs : List Nat)
    (h : compareChars c d = .lt) :
    compareLists (ofChar c ++ us) (ofChar d ++ vs) = .lt := by
  have hC := toNat_not_surrogate c
  have hD := toNat_not_surrogate d
  rw [compareChars_eq_lt_iff, lt_iff_toNat_lt] at h
  unfold Overtakes at h
  unfold ofChar
  split <;> split
  · exact compareLists_cons_lt _ _ (by omega)
  · exact compareLists_cons_lt _ _ (by omega)
  · exact compareLists_cons_lt _ _ (by omega)
  · by_cases hHigh :
        (c.toNat - 0x10000) / 0x400 =
          (d.toNat - 0x10000) / 0x400
    · rw [hHigh, List.cons_append, List.cons_append]
      refine (compareLists_append_self [_] _ _).trans ?_
      exact compareLists_cons_lt _ _ (by omega)
    · exact compareLists_cons_lt _ _ (by omega)

/- The first characters decide unless they are the same. -/
theorem compareLists_ofChar_append
    (c d : Char)
    (us vs : List Nat) :
    compareLists (ofChar c ++ us) (ofChar d ++ vs) =
      (compareChars c d).then (compareLists us vs) := by
  cases hOrder : compareChars c d with
  | lt => exact compareLists_of_before us vs hOrder
  | eq =>
      obtain rfl := compareChars_eq_iff.mp hOrder
      exact compareLists_append_self _ us vs
  | gt =>
      have hBack : compareChars d c = .lt := by
        rw [← compareChars_swap, hOrder]
        rfl
      have hLess := compareLists_of_before vs us hBack
      rw [compareLists_eq_compare] at hLess ⊢
      rw [Std.OrientedOrd.eq_swap, hLess]
      rfl

/-
  Lists of characters, compared by all their units.  The
  characters are taken off one by one, and no units are left
  exactly when no characters are.
-/
theorem compareLists_flatMap_ofChar (cs ds : List Char) :
    compareLists (cs.flatMap ofChar) (ds.flatMap ofChar) =
      cs.compareLex compareChars ds := by
  induction cs generalizing ds with
  | nil =>
      cases ds with
      | nil => rfl
      | cons d ds =>
          rcases List.exists_cons_of_ne_nil (ofChar_ne_nil d)
            with ⟨u, us, hUnits⟩
          rw [List.compareLex_nil_cons, List.flatMap_cons,
            hUnits]
          rfl
  | cons c cs ih =>
      cases ds with
      | nil =>
          rcases List.exists_cons_of_ne_nil (ofChar_ne_nil c)
            with ⟨u, us, hUnits⟩
          rw [List.compareLex_cons_nil, List.flatMap_cons,
            hUnits]
          rfl
      | cons d ds =>
          rw [List.flatMap_cons, List.flatMap_cons,
            compareLists_ofChar_append, ih,
            List.compareLex_cons_cons]

------------------------------------------------------------
-- Texts
------------------------------------------------------------

/- Texts are compared by their characters. -/
theorem compareTexts_eq_compareLex (a b : String) :
    compareTexts a b =
      a.toList.compareLex compareChars b.toList :=
  compareLists_flatMap_ofChar a.toList b.toList

theorem compareTexts_eq_iff {a b : String} :
    compareTexts a b = .eq ↔ a = b := by
  unfold compareTexts
  rw [compareLists_eq_compare,
    Std.LawfulEqOrd.compare_eq_iff_eq, ofText_inj]

/- Lists of characters come first by what differs first. -/
theorem compare_eq_lt_iff (cs ds : List Char) :
    compare cs ds = .lt ↔ cs < ds := by
  induction cs generalizing ds with
  | nil =>
      cases ds with
      | nil => simp
      | cons d ds => simp [List.compare_nil_cons]
  | cons c cs ih =>
      cases ds with
      | nil => simp [List.compare_cons_nil]
      | cons d ds =>
          rw [List.compare_cons_cons, Ordering.then_eq_lt,
            compare_lt_iff_lt, compare_eq_iff_eq, ih,
            List.cons_lt_cons_iff]

/- The order of texts by code points is one by characters. -/
theorem compare_eq_compareLex (a b : String) :
    compare a b = a.toList.compareLex compare b.toList := by
  rw [← List.compare_eq_compareLex]
  rcases lt_trichotomy a b with h | rfl | h
  · have hFirst := String.lt_iff_toList_lt.mp h
    rw [compare_lt_iff_lt.mpr h,
      (compare_eq_lt_iff _ _).mpr hFirst]
  · simp
  · have hFirst := String.lt_iff_toList_lt.mp h
    rw [compare_gt_iff_gt.mpr h, Std.OrientedOrd.eq_swap,
      (compare_eq_lt_iff _ _).mpr hFirst]
    rfl

/-
  The order of texts by their code units.  It is the order by
  their characters, each compared by zone and code point; only
  equal texts are equal in it; and it is not the order by code
  points exactly if one character overtakes the other where the
  texts first differ.
-/
theorem compareTexts_by_characters (a b : String) :
    compareTexts a b =
        a.toList.compareLex compareChars b.toList ∧
      (compareTexts a b = .eq ↔ a = b) ∧
      (compareTexts a b ≠ compare a b ↔
        ∃ front c d cMore dMore,
          a.toList = front ++ c :: cMore ∧
            b.toList = front ++ d :: dMore ∧
            (Overtakes c d ∨ Overtakes d c)) := by
  refine
    ⟨compareTexts_eq_compareLex a b, compareTexts_eq_iff, ?_⟩
  rw [compareTexts_eq_compareLex, compare_eq_compareLex]
  simp only [← compareChars_ne_compare_iff]
  exact
    compareLex_ne_iff (fun _ _ => compareChars_eq_iff)
      fun _ _ => compare_eq_iff_eq

example :
    compareTexts "a😀" "aﬁ" = .lt ∧
      compare "a😀" "aﬁ" = .gt := by
  decide

end Rulebook.Units
