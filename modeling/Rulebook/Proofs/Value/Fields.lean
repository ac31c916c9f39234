import Rulebook.Expr
import Rulebook.Proofs.Value.Paths

/-
  Reading and writing of fields: a write is read back, and two
  writes disturb each other only if one path leads through the
  other.

  Key definitions include:
    * `Expr.paths`

  Main results:
    * `Environment.put_comm`
    * `Environment.read_write_self`
    * `Environment.read_write_of_apart`
    * `Environment.write_comm`
    * `Expr.eval_set`
-/

namespace Rulebook

namespace Environment

variable {env : Environment}
variable {key other : String}
variable {value value' : Value}

------------------------------------------------------------
-- Fields Of One Level
------------------------------------------------------------

/- A key that is there gets another value. -/
theorem put_same
    {rest : Environment} :
    (field key value' rest).put key value =
      field key value rest := by
  simp [put]

/- A key before all others comes first. -/
theorem put_before
    {first : String}
    {rest : Environment}
    (h : key < first) :
    (field first value' rest).put key value =
      field key value (field first value' rest) := by
  simp [put, h, String.ne_of_lt h]

/- A key behind the first one belongs to the rest. -/
theorem put_behind
    {first : String}
    {rest : Environment}
    (h : first < key) :
    (field first value' rest).put key value =
      field first value' (rest.put key value) := by
  simp [put, (String.ne_of_lt h).symm, String.lt_asymm h]

/- The value that a key was given is found. -/
@[simp]
theorem find_put_self :
    (env.put key value).find key = value := by
  fun_induction put key value env with
  | case1 => simp [find]
  | case2 value' rest => simp [find]
  | case3 first value' rest hDiffers hBefore => simp [find]
  | case4 first value' rest hDiffers hBefore ih =>
      simpa [find, hDiffers] using ih

/- Any other key keeps its value. -/
theorem find_put_of_ne
    (h : other ≠ key) :
    (env.put key value).find other = env.find other := by
  fun_induction put key value env with
  | case1 => simp [find, h]
  | case2 value' rest => simp [find, h]
  | case3 first value' rest hDiffers hBefore =>
      simp [find, h]
  | case4 first value' rest hDiffers hBefore ih =>
      simp only [find, ih]

/- The second of two values for one key is kept. -/
@[simp]
theorem put_put :
    (env.put key value).put key value' =
      env.put key value' := by
  fun_induction put key value env with
  | case1 => simp [put]
  | case2 value' rest => simp [put]
  | case3 first value' rest hDiffers hBefore =>
      simp [put, hDiffers, hBefore]
  | case4 first value' rest hDiffers hBefore ih =>
      simp [put, hDiffers, hBefore, ih]

/-
  A smaller key and a larger one can get their values in either
  order.  Nothing is asked of the keys that are there: a key
  comes before the first one that is larger.
-/
private theorem put_comm_of_lt
    (h : key < other) :
    (env.put key value).put other value' =
      (env.put other value').put key value := by
  fun_induction put key value env with
  | case1 =>
      rw [put_behind h]
      exact (put_before h).symm
  | case2 v rest =>
      rw [put_behind h, put_behind h, put_same]
  | case3 first v rest hDiffers hBefore =>
      have hOrder :
          other < first ∨ other = first ∨ first < other :=
        Std.Trichotomous.rel_or_eq_or_rel_swap
      rw [put_behind h]
      rcases hOrder with hOther | rfl | hOther
      · rw [put_before hOther, put_before h]
      · rw [put_same, put_before h]
      · rw [put_behind hOther, put_before hBefore]
  | case4 first v rest hDiffers hBefore ih =>
      have hBehind : first < key := by
        grind
      have hOther : first < other :=
        String.lt_trans hBehind h
      rw [put_behind hOther, put_behind hOther,
        put_behind hBehind, ih]

/- Two keys can get their values in either order. -/
theorem put_comm
    (h : key ≠ other) :
    (env.put key value).put other value' =
      (env.put other value').put key value := by
  by_cases hLess : key < other
  · exact put_comm_of_lt hLess
  · have hGreater : other < key := by
      grind
    exact (put_comm_of_lt hGreater).symm

------------------------------------------------------------
-- Paths
------------------------------------------------------------

variable {p q : List String}

/- A path of several segments leads through the first. -/
theorem read_cons
    (h : p ≠ []) :
    read (key :: p) env = read p (env.find key).fields := by
  cases p with
  | nil => exact absurd rfl h
  | cons s p => rfl

/- So does a write, which makes the first a mapping. -/
theorem write_cons
    (h : p ≠ []) :
    write value (key :: p) env =
      env.put key
        (.mapping (write value p (env.find key).fields)) := by
  cases p with
  | nil => exact absurd rfl h
  | cons s p => rfl

/-
  A write changes the field of its first segment only, and of
  all fields it looks at no other.
-/
theorem exists_write_eq_put
    (value : Value)
    (key : String)
    (p : List String) :
    ∃ change : Value → Value,
      ∀ env,
        write value (key :: p) env =
          env.put key (change (env.find key)) := by
  cases p with
  | nil => exact ⟨fun _ => value, fun _ => rfl⟩
  | cons s p =>
      exact
        ⟨fun old => .mapping (write value (s :: p) old.fields),
          fun _ => rfl⟩

/- A read sees the field of its first segment only. -/
theorem read_eq_of_find_eq
    {env' : Environment}
    (h : env.find key = env'.find key) :
    read (key :: p) env = read (key :: p) env' := by
  cases p with
  | nil => exact h
  | cons s p =>
      simp only [read, h]

/- What was written is read back. -/
theorem read_write_self
    (h : p ≠ []) :
    read p (write value p env) = value := by
  induction p generalizing env with
  | nil => exact absurd rfl h
  | cons key p ih =>
      by_cases hLast : p = []
      · subst hLast
        exact find_put_self
      · rw [write_cons hLast, read_cons hLast, find_put_self]
        exact ih hLast

/- A read does not see a write that does not overlap with it. -/
theorem read_write_of_apart
    (h : ¬ SegmentsOverlap p q) :
    read q (write value p env) = read q env := by
  induction p generalizing q env with
  | nil => exact absurd SegmentsOverlap.nil_left h
  | cons key p ih =>
      cases q with
      | nil => exact absurd SegmentsOverlap.nil_right h
      | cons other q =>
          by_cases hSame : other = key
          · subst hSame
            rw [SegmentsOverlap.cons_iff] at h
            have hP : p ≠ [] := by
              rintro rfl
              exact h SegmentsOverlap.nil_left
            have hQ : q ≠ [] := by
              rintro rfl
              exact h SegmentsOverlap.nil_right
            rw [write_cons hP, read_cons hQ, read_cons hQ,
              find_put_self]
            exact ih h
          · rcases exists_write_eq_put value key p with
              ⟨change, hWrite⟩
            rw [hWrite]
            exact read_eq_of_find_eq (find_put_of_ne hSame)

/- Writes that do not overlap can be made in either order. -/
theorem write_comm
    (h : ¬ SegmentsOverlap p q) :
    write value' q (write value p env) =
      write value p (write value' q env) := by
  induction p generalizing q env with
  | nil => exact absurd SegmentsOverlap.nil_left h
  | cons key p ih =>
      cases q with
      | nil => exact absurd SegmentsOverlap.nil_right h
      | cons other q =>
          by_cases hSame : key = other
          · subst hSame
            rw [SegmentsOverlap.cons_iff] at h
            have hP : p ≠ [] := by
              rintro rfl
              exact h SegmentsOverlap.nil_left
            have hQ : q ≠ [] := by
              rintro rfl
              exact h SegmentsOverlap.nil_right
            simp only [write_cons hP, write_cons hQ,
              find_put_self, put_put, Value.fields]
            rw [ih h]
          · rcases exists_write_eq_put value key p with
              ⟨change, hWrite⟩
            rcases exists_write_eq_put value' other q with
              ⟨change', hWrite'⟩
            simp only [hWrite, hWrite', find_put_of_ne hSame,
              find_put_of_ne (Ne.symm hSame)]
            exact put_comm hSame

/- The value written at a path is the value there. -/
theorem get_set_self
    {env : Environment}
    {p : FieldPath}
    {value : Value} :
    (env.set p value).get p = value :=
  read_write_self p.segments_ne_nil

/- A write is not seen at a path that does not overlap. -/
theorem get_set_of_apart
    {env : Environment}
    {p q : FieldPath}
    {value : Value}
    (h : ¬ p.Overlaps q) :
    (env.set p value).get q = env.get q :=
  read_write_of_apart h

/- Writes at paths that do not overlap commute. -/
theorem set_comm
    {env : Environment}
    {p q : FieldPath}
    {value value' : Value}
    (h : ¬ p.Overlaps q) :
    (env.set p value).set q value' =
      (env.set q value').set p value :=
  write_comm h

end Environment

------------------------------------------------------------
-- Expressions
------------------------------------------------------------

namespace Expr

/- The paths that an expression names. -/
def paths : Expr → List FieldPath
  | .literal _ => []
  | .path p => [p]
  | .unary _ operand => operand.paths
  | .binary _ left right => left.paths ++ right.paths

/- An expression sees nothing but the paths that it names. -/
theorem eval_congr
    {env env' : Environment}
    {e : Expr}
    (h : ∀ p ∈ e.paths, env.get p = env'.get p) :
    e.eval env = e.eval env' := by
  induction e with
  | literal value => rfl
  | path p => exact h p (by simp [paths])
  | unary op operand ih =>
      simp only [eval, ih h]
  | binary op left right ihLeft ihRight =>
      have hLeft : ∀ p ∈ left.paths, env.get p = env'.get p :=
        fun p hP => h p (List.mem_append_left _ hP)
      have hRight :
          ∀ p ∈ right.paths, env.get p = env'.get p :=
        fun p hP => h p (List.mem_append_right _ hP)
      simp only [eval, ihLeft hLeft, ihRight hRight]

/-
  A write changes no expression, unless it overlaps with a path
  that the expression names.
-/
theorem eval_set
    {env : Environment}
    {e : Expr}
    {target : FieldPath}
    {value : Value}
    (h : ∀ p ∈ e.paths, ¬ target.Overlaps p) :
    e.eval (env.set target value) = e.eval env :=
  eval_congr fun p hP =>
    Environment.get_set_of_apart (h p hP)

end Expr

end Rulebook
