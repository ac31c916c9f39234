import Rulebook.Token
import Rulebook.Unicode.Ligature

/-
  Tables of tokens, drawn with box characters.

  Key definitions include:
    * `TokenRow`
    * `Token.rows`
    * `Table.draw`
    * `Token.table`
-/

namespace Rulebook

------------------------------------------------------------
-- Rows
------------------------------------------------------------

/- A token as a table shows it. -/
structure TokenRow where
  index : Nat
  kind : String
  lexeme : String
  line : Nat
  column : Nat
deriving DecidableEq, Repr

/- The row of a token at its place in a list. -/
def Token.row
    (t : Token)
    (index : Nat) : TokenRow :=
  ⟨index, t.kind.name, t.shown, t.position.line,
    t.position.column⟩

/- The rows of a list of tokens. -/
def Token.rows (tokens : List Token) : List TokenRow :=
  tokens.mapIdx fun index t => t.row index

/- The cells of a row. -/
def TokenRow.cells (row : TokenRow) : List String :=
  [row.index.repr, row.kind, row.lexeme, row.line.repr,
   row.column.repr]

------------------------------------------------------------
-- Drawing
------------------------------------------------------------

namespace Table

/- The side of its column that a cell is moved to. -/
inductive Side where
  | left
  | right
deriving DecidableEq, Repr

/- A text several times over. -/
def repeated (count : Nat) (text : String) : String :=
  String.join (List.replicate count text)

/- A cell filled up with blanks to a width. -/
def padded
    (side : Side)
    (width : Nat)
    (cell : String) : String :=
  let blanks := repeated (width - Unicode.textWidth cell) " "
  match side with
  | .left => cell ++ blanks
  | .right => blanks ++ cell

/- The width of each column: that of its widest cell. -/
def widths (rows : List (List String)) : List Nat :=
  rows.foldl
    (fun widths row =>
      List.zipWith max widths (row.map Unicode.textWidth))
    (rows.head?.getD [] |>.map fun _ => 0)

/- A line between rows, or above or below all of them. -/
def rule
    (start fill crossing finish : String)
    (widths : List Nat) : String :=
  start ++
    crossing.intercalate
      (widths.map fun width => repeated (width + 2) fill) ++
    finish

/- The line of a row. -/
def line
    (sides : List Side)
    (widths : List Nat)
    (cells : List String) : String :=
  let padding :=
    (sides.zip (widths.zip cells)).map
      fun (side, width, cell) =>
        " " ++ padded side width cell ++ " "
  "│" ++ "┆".intercalate padding ++ "│"

/- A table with a head, without a line end at its end. -/
def draw
    (sides : List Side)
    (head : List String)
    (rows : List (List String)) : String :=
  let widths := widths (head :: rows)
  let between := rule "├" "╌" "┼" "┤" widths
  let body :=
    (rows.map (line sides widths)).intersperse between
  "\n".intercalate
    ([rule "┌" "─" "┬" "┐" widths,
      line sides widths head,
      rule "╞" "═" "╪" "╡" widths] ++
      body ++
      [rule "└" "─" "┴" "┘" widths])

end Table

/- The table of a list of tokens. -/
def Token.table (tokens : List Token) : String :=
  Table.draw
    [.right, .left, .left, .right, .right]
    ["#", "Kind", "Lexeme", "Line", "Col"]
    ((Token.rows tokens).map (·.cells))

end Rulebook
