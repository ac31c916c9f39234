import Rulebook.Proofs.Value.Fields

/-
  What a write leaves at every path, and how two writes in a row
  come to one environment.  All of it holds whatever was on the
  way: mappings, other values, or nothing.

  Key definitions include:
    * `Value.Leads`

  Main results:
    * `FieldPath.properPrefix_iff`
    * `Environment.read_fields_of_leads`
    * `Environment.read_append_write`
    * `Environment.read_write_append`
    * `Environment.write_write_of_prefix`
    * `Environment.get_after_set`
    * `Environment.set_after_set`
-/

namespace Rulebook

------------------------------------------------------------
-- Paths Behind Paths
------------------------------------------------------------

namespace FieldPath

variable {p q rest : FieldPath}

/- One path behind another. -/
instance : Append FieldPath where
  append p rest :=
    { segments := p.segments ++ rest.segments
      segments_ne_nil :=
        List.append_ne_nil_of_left_ne_nil p.segments_ne_nil _
      segment_ne_empty := fun s hS =>
        (List.mem_append.mp hS).elim
          (p.segment_ne_empty s) (rest.segment_ne_empty s) }

@[simp]
theorem segments_append :
    (p ++ rest).segments = p.segments ++ rest.segments :=
  rfl

/- A path is its segments. -/
theorem eq_of_segments_eq
    (h : p.segments = q.segments) : p = q := by
  cases p
  cases q
  cases h
  rfl

/- A proper prefix is what another path goes on from. -/
theorem properPrefix_iff :
    q.ProperPrefix p ↔ ∃ rest, p = q ++ rest := by
  constructor
  · rintro ⟨⟨behind, hBehind⟩, hDiffers⟩
    have hSome : behind ≠ [] := by
      rintro rfl
      rw [List.append_nil] at hBehind
      exact hDiffers (eq_of_segments_eq hBehind)
    have hSegments : ∀ s ∈ behind, s ≠ "" := by
      intro s hS
      apply p.segment_ne_empty s
      rw [← hBehind]
      exact List.mem_append_right _ hS
    exact
      ⟨⟨behind, hSome, hSegments⟩,
        eq_of_segments_eq hBehind.symm⟩
  · rintro ⟨rest, rfl⟩
    refine ⟨⟨rest.segments, rfl⟩, ?_⟩
    intro hSame
    have hSegments := congrArg segments hSame
    rw [segments_append] at hSegments
    exact
      rest.segments_ne_nil
        (List.self_eq_append_right.mp hSegments)

end FieldPath

------------------------------------------------------------
-- What A Value Holds
------------------------------------------------------------

/-
  Segments lead from a value to a value: each of them is the key
  of a field, in a mapping that the segments before it lead to.
-/
inductive Value.Leads :
    Value → List String → Value → Prop where
  | here
      {value : Value} : Leads value [] value
  | field
      {fields : Environment}
      {key : String}
      {segments : List String}
      {next value : Value}
      (hField : fields.toList.lookup key = some next)
      (hNext : Leads next segments value) :
      Leads (.mapping fields) (key :: segments) value

namespace Environment

variable {env : Environment}
variable {key : String}
variable {value value' found : Value}
variable {p q rest : List String}

/- A key that has no field is found as null. -/
theorem find_eq_lookup :
    env.find key = (env.toList.lookup key).getD .null := by
  fun_induction find key env with
  | case1 => rfl
  | case2 value rest => simp [toList]
  | case3 first value rest hDiffers ih =>
      have hKey : (key == first) = false := by
        simpa using hDiffers
      simp [toList, List.lookup_cons, hKey, ih]

/- Nothing is found where there is no field. -/
theorem read_empty
    (h : p ≠ []) : read p .empty = .null := by
  induction p with
  | nil => exact absurd rfl h
  | cons key p ih =>
      by_cases hLast : p = []
      · subst hLast
        rfl
      · rw [read_cons hLast]
        exact ih hLast

/- A read gives the value that the segments lead to. -/
theorem read_fields_of_leads
    (hSome : p ≠ [])
    (h : value.Leads p found) :
    read p value.fields = found := by
  induction h with
  | here => exact absurd rfl hSome
  | @field fields key segments next found hField hNext ih =>
      have hFind : fields.find key = next := by
        rw [find_eq_lookup, hField]
        rfl
      by_cases hLast : segments = []
      · subst hLast
        cases hNext
        exact hFind
      · rw [Value.fields, read_cons hLast, hFind]
        exact ih hLast

/- A read gives null if they do not lead anywhere. -/
theorem read_fields_of_not_leads
    (hSome : p ≠ [])
    (h : ¬ ∃ found, value.Leads p found) :
    read p value.fields = .null := by
  induction p generalizing value with
  | nil => exact absurd rfl hSome
  | cons key p ih =>
      cases value with
      | mapping fields =>
          cases hField : fields.toList.lookup key with
          | none =>
              have hFind : fields.find key = .null := by
                rw [find_eq_lookup, hField]
                rfl
              by_cases hLast : p = []
              · subst hLast
                exact hFind
              · rw [Value.fields, read_cons hLast, hFind]
                exact read_empty hLast
          | some next =>
              have hFind : fields.find key = next := by
                rw [find_eq_lookup, hField]
                rfl
              have hNext : ¬ ∃ found, next.Leads p found := by
                rintro ⟨found, hFound⟩
                exact h ⟨found, .field hField hFound⟩
              have hLast : p ≠ [] := by
                rintro rfl
                exact hNext ⟨next, .here⟩
              rw [Value.fields, read_cons hLast, hFind]
              exact ih hLast hNext
      | _ => exact read_empty hSome

------------------------------------------------------------
-- Reads Behind A Write
------------------------------------------------------------

/- Behind the path of a write the written value is read. -/
theorem read_append_write
    (hP : p ≠ [])
    (hRest : rest ≠ []) :
    read (p ++ rest) (write value p env) =
      read rest value.fields := by
  induction p generalizing env with
  | nil => exact absurd rfl hP
  | cons key p ih =>
      have hMore : p ++ rest ≠ [] :=
        List.append_ne_nil_of_right_ne_nil p hRest
      rw [List.cons_append, read_cons hMore]
      by_cases hLast : p = []
      · subst hLast
        rw [write, find_put_self]
        rfl
      · rw [write_cons hLast, find_put_self]
        exact ih hLast

/-
  On the way of a write there is a mapping.  It is what was
  there before with the rest of the write made in it, and only
  that if no mapping was there.
-/
theorem read_write_append
    (hQ : q ≠ [])
    (hRest : rest ≠ []) :
    read q (write value (q ++ rest) env) =
      .mapping (write value rest (read q env).fields) := by
  induction q generalizing env with
  | nil => exact absurd rfl hQ
  | cons key q ih =>
      have hMore : q ++ rest ≠ [] :=
        List.append_ne_nil_of_right_ne_nil q hRest
      rw [List.cons_append, write_cons hMore]
      by_cases hLast : q = []
      · subst hLast
        exact find_put_self
      · rw [read_cons hLast, read_cons hLast, find_put_self]
        exact ih hLast

/-
  The environment that a write at a path has made, looked at at
  another path: at the path of the write, behind it, on the way
  to it, or apart from it.
-/
theorem get_after_set
    (env : Environment)
    (p q : FieldPath)
    (value : Value) :
    (q = p → (env.set p value).get q = value) ∧
      (∀ rest, q = p ++ rest →
        (∀ found,
          value.Leads rest.segments found →
            (env.set p value).get q = found) ∧
          ((¬ ∃ found, value.Leads rest.segments found) →
            (env.set p value).get q = .null)) ∧
      (q.ProperPrefix p →
        ∃ rest, p = q ++ rest ∧
          (env.set p value).get q =
            .mapping ((env.get q).fields.set rest value)) ∧
      (¬ p.Overlaps q →
        (env.set p value).get q = env.get q) := by
  refine ⟨?_, ?_, ?_, get_set_of_apart⟩
  · rintro rfl
    exact get_set_self
  · rintro rest rfl
    have hBehind :
        (env.set p value).get (p ++ rest) =
          read rest.segments value.fields :=
      read_append_write p.segments_ne_nil rest.segments_ne_nil
    rw [hBehind]
    exact
      ⟨fun found =>
          read_fields_of_leads rest.segments_ne_nil,
        read_fields_of_not_leads rest.segments_ne_nil⟩
  · intro hPrefix
    rcases FieldPath.properPrefix_iff.mp hPrefix with
      ⟨rest, rfl⟩
    exact
      ⟨rest, rfl,
        read_write_append q.segments_ne_nil
          rest.segments_ne_nil⟩

------------------------------------------------------------
-- Writes Behind A Write
------------------------------------------------------------

/-
  A write at a path, or at a prefix of it, leaves nothing of
  what was written there before.
-/
theorem write_write_of_prefix
    (hQ : q ≠ [])
    (h : q <+: p) :
    write value' q (write value p env) =
      write value' q env := by
  induction q generalizing p env with
  | nil => exact absurd rfl hQ
  | cons key q ih =>
      rcases List.cons_prefix_iff.mp h with
        ⟨p, rfl, hPrefix⟩
      by_cases hLast : q = []
      · subst hLast
        rcases exists_write_eq_put value key p with
          ⟨change, hWrite⟩
        rw [hWrite]
        exact put_put
      · have hMore : p ≠ [] := by
          rintro rfl
          exact hLast (List.prefix_nil.mp hPrefix)
        simp only [write_cons hLast, write_cons hMore,
          find_put_self, put_put, Value.fields]
        rw [ih hLast hPrefix]

/-
  Of two writes in a row the second makes the first one undone,
  if its path is that of the first or a prefix of it.  If
  neither path is a prefix of the other, it does not matter
  which of the writes is the second.
-/
theorem set_after_set
    (env : Environment)
    (p q : FieldPath)
    (value value' : Value) :
    (q = p ∨ q.ProperPrefix p →
      (env.set p value).set q value' = env.set q value') ∧
      (¬ p.Overlaps q →
        (env.set p value).set q value' =
          (env.set q value').set p value) := by
  refine ⟨?_, set_comm⟩
  intro h
  have hPrefix : q.segments <+: p.segments := by
    rcases h with rfl | hProper
    · exact List.prefix_rfl
    · exact hProper.1
  exact write_write_of_prefix q.segments_ne_nil hPrefix

end Environment

end Rulebook
