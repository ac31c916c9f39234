/-
  Results that are a value or an error: what is behind a result
  whose value or whose error was rewritten.

  Key definitions include:
    * `AlikeResults`

  Key lemmas include:
    * `map_eq_ok_iff`
    * `exists_of_bind_eq_ok`
    * `bindResult_eq_error_iff`
    * `mapError_eq_ok_iff`
    * `mapError_eq_error_iff`
    * `alikeResults_of_ok_iff`
-/

namespace Rulebook

variable {ε δ α β : Type}
variable {result : Except ε α}

/- Results are the same if they hold the same. -/
instance decidableEqExcept
    [DecidableEq ε]
    [DecidableEq α] : DecidableEq (Except ε α)
  | .ok a, .ok b =>
      decidable_of_iff (a = b) (by simp)
  | .error e, .error f =>
      decidable_of_iff (e = f) (by simp)
  | .ok _, .error _ => isFalse (by simp)
  | .error _, .ok _ => isFalse (by simp)

theorem map_eq_ok_iff
    {g : α → β}
    {value : β} :
    result.map g = .ok value ↔
      ∃ found, result = .ok found ∧ g found = value := by
  cases result <;> simp [Except.map]

theorem map_eq_error_iff
    {g : α → β}
    {error : ε} :
    result.map g = .error error ↔ result = .error error := by
  cases result <;> simp [Except.map]

/- Two steps succeed one behind the other. -/
theorem exists_of_bind_eq_ok
    {next : α → Except ε β}
    {value : β}
    (h : (result >>= next) = .ok value) :
    ∃ found, result = .ok found ∧ next found = .ok value := by
  cases result with
  | ok found => exact ⟨found, rfl, h⟩
  | error error => cases h

/- They fail where the first or the second fails. -/
theorem bindResult_eq_error_iff
    {next : α → Except ε β}
    {error : ε} :
    (result >>= next) = .error error ↔
      result = .error error ∨
        ∃ found,
          result = .ok found ∧ next found = .error error := by
  cases result with
  | ok found =>
      constructor
      · exact fun h => .inr ⟨found, rfl, h⟩
      · rintro (h | ⟨_, h, hNext⟩)
        · cases h
        · cases h
          exact hNext
  | error found =>
      constructor
      · intro h
        cases h
        exact .inl rfl
      · rintro (h | ⟨_, h, _⟩)
        · cases h
          rfl
        · cases h

variable {f : ε → δ}

theorem mapError_eq_ok_iff
    {value : α} :
    result.mapError f = .ok value ↔ result = .ok value := by
  cases result with
  | ok found =>
      constructor
      · intro h
        cases h
        rfl
      · intro h
        cases h
        rfl
  | error found =>
      constructor
      · intro h
        cases h
      · intro h
        cases h

theorem mapError_eq_error_iff
    {error : δ} :
    result.mapError f = .error error ↔
      ∃ found, result = .error found ∧ f found = error := by
  cases result with
  | ok value =>
      constructor
      · intro h
        cases h
      · rintro ⟨found, h, _⟩
        cases h
  | error found =>
      constructor
      · intro h
        cases h
        exact ⟨found, rfl, rfl⟩
      · rintro ⟨_, h, rfl⟩
        cases h
        rfl

------------------------------------------------------------
-- Alike Results
------------------------------------------------------------

/- Both are errors, or both have values that are related. -/
inductive AlikeResults
    (S : α → β → Prop)
    (result : Except ε α)
    (result' : Except δ β) : Prop where
  | errors
      {error : ε}
      {error' : δ}
      (hError : result = .error error)
      (hError' : result' = .error error')
  | values
      {value : α}
      {value' : β}
      (hValue : result = .ok value)
      (hValue' : result' = .ok value')
      (hSame : S value value')

/- Results are alike if they can only have the same values. -/
theorem alikeResults_of_ok_iff
    {result : Except ε α}
    {result' : Except δ α}
    (h : ∀ value, result = .ok value ↔ result' = .ok value) :
    AlikeResults (· = ·) result result' := by
  cases hResult : result with
  | ok value =>
      exact .values rfl ((h value).mp hResult) rfl
  | error error =>
      cases hResult' : result' with
      | error error' => exact .errors rfl rfl
      | ok value =>
          rw [(h value).mpr hResult'] at hResult
          cases hResult

namespace AlikeResults

variable {γ γ' : Type}
variable {S : α → β → Prop}
variable {T : γ → γ' → Prop}
variable {result : Except ε α}
variable {result' : Except δ β}

/- Values that are related are rewritten to such values. -/
theorem map
    {f : α → γ}
    {g : β → γ'}
    (h : AlikeResults S result result')
    (hSame : ∀ a b, S a b → T (f a) (g b)) :
    AlikeResults T (result.map f) (result'.map g) := by
  cases h with
  | errors hError hError' =>
      rw [hError, hError']
      exact .errors rfl rfl
  | values hValue hValue' hBoth =>
      rw [hValue, hValue']
      exact .values rfl rfl (hSame _ _ hBoth)

/- It does not matter what the errors are. -/
theorem mapError
    {ε' δ' : Type}
    {f : ε → ε'}
    {g : δ → δ'}
    (h : AlikeResults S result result') :
    AlikeResults S (result.mapError f)
      (result'.mapError g) := by
  cases h with
  | errors hError hError' =>
      rw [hError, hError']
      exact .errors rfl rfl
  | values hValue hValue' hBoth =>
      rw [hValue, hValue']
      exact .values rfl rfl hBoth

end AlikeResults

end Rulebook
