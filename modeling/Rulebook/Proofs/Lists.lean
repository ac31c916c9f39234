/-
  Parts of lists: runs at the start of a list, which go on to
  the first element outside a class, and lists in a row.

  Key lemmas include:
    * `of_mem_takeWhile`
    * `takeWhile_run`
    * `dropWhile_run`
    * `head?_dropWhile_outside`
    * `infix_flatMap`
    * `forall_mem_of_all`
-/

namespace Rulebook

variable {α : Type}
variable {inClass : α → Bool}

/- The elements that a run takes are all of its class. -/
theorem of_mem_takeWhile
    {list : List α} :
    ∀ a ∈ list.takeWhile inClass, inClass a = true :=
  List.all_eq_true.mp List.all_takeWhile

/- The first element behind a run is not of its class. -/
theorem head?_dropWhile_outside
    {list : List α} :
    ∀ a ∈ (list.dropWhile inClass).head?,
      inClass a = false := by
  intro a hA
  have hNot := List.head?_dropWhile_not inClass list
  rw [Option.mem_def.mp hA] at hNot
  simpa using hNot

/- A run of a class ends where another element follows. -/
theorem takeWhile_run
    {run rest : List α}
    (hRun : ∀ a ∈ run, inClass a = true)
    (hRest : ∀ a ∈ rest.head?, inClass a = false) :
    (run ++ rest).takeWhile inClass = run := by
  rw [List.takeWhile_append_of_pos hRun]
  cases rest with
  | nil => simp
  | cons a rest => simp [hRest a rfl]

/- What follows a run of a class is left. -/
theorem dropWhile_run
    {run rest : List α}
    (hRun : ∀ a ∈ run, inClass a = true)
    (hRest : ∀ a ∈ rest.head?, inClass a = false) :
    (run ++ rest).dropWhile inClass = rest := by
  rw [List.dropWhile_append_of_pos hRun]
  cases rest with
  | nil => rfl
  | cons a rest => simp [hRest a rfl]

/- A list is found among the lists in a row. -/
theorem infix_flatMap
    {β : Type}
    {f : α → List β}
    {a : α}
    {list : List α}
    (h : a ∈ list) :
    f a <:+: list.flatMap f := by
  rw [List.flatMap_def]
  exact List.infix_of_mem_flatten (List.mem_map_of_mem h)

/- What can be decided of all the elements of a given list. -/
theorem forall_mem_of_all
    {P : α → Prop}
    [DecidablePred P]
    {list : List α}
    (h : (list.all fun a => decide (P a)) = true) :
    ∀ a ∈ list, P a := by
  simpa using h

end Rulebook
