/-
  Places in a text, counted in lines and in characters.

  Key definitions include:
    * `Position`
    * `Position.start`
    * `Position.step`
    * `Position.after`
    * `Position.label`
    * `Position.tag`
-/

namespace Rulebook

/-
  A place in a text.  The first line and the first column have
  the number one.
-/
structure Position where
  line : Nat
  column : Nat
deriving DecidableEq, Repr

namespace Position

------------------------------------------------------------
-- Movement
------------------------------------------------------------

/- The place of the first character of a text. -/
def start : Position :=
  ⟨1, 1⟩

/- The place behind one character. -/
def step
    (p : Position)
    (c : Char) : Position :=
  if c = '\n' then ⟨p.line + 1, 1⟩
  else ⟨p.line, p.column + 1⟩

/- The place behind a run of characters. -/
def after
    (p : Position)
    (chars : List Char) : Position :=
  chars.foldl step p

@[simp]
theorem after_nil (p : Position) :
    p.after [] = p :=
  rfl

@[simp]
theorem after_cons
    (p : Position)
    (c : Char)
    (chars : List Char) :
    p.after (c :: chars) = (p.step c).after chars :=
  rfl

/- Movement over a run is movement over its parts in turn. -/
theorem after_append
    (p : Position)
    (xs ys : List Char) :
    p.after (xs ++ ys) = (p.after xs).after ys := by
  simp [after, List.foldl_append]

------------------------------------------------------------
-- Text
------------------------------------------------------------

/- The text `line:column`. -/
def label (p : Position) : String :=
  p.line.repr ++ ":" ++ p.column.repr

/- The mark that opens a message about a place. -/
def tag (p : Position) : String :=
  "[L" ++ p.line.repr ++ " C" ++ p.column.repr ++ "]"

end Position

end Rulebook
