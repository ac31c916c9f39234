import Rulebook.Number.Layout

/-
  JSON documents and their two layouts: compact, and with one
  member a line.

  Key definitions include:
    * `Json`
    * `Json.quoted`
    * `Json.compact`
    * `Json.pretty`
-/

namespace Rulebook

/-
  A JSON document.  Whole numbers and floating-point numbers
  are told apart.  The members of an object stand in the order
  in which they are written.
-/
inductive Json where
  | null
  | boolean (b : Bool)
  | integer (n : Int)
  | float (x : Binary64)
  | string (s : String)
  | array (items : List Json)
  | object (members : List (String × Json))

namespace Json

------------------------------------------------------------
-- Leaves
------------------------------------------------------------

/- The escape of a control character by its number. -/
def control (c : Char) : List Char :=
  let digits := Nat.toDigits 16 c.toNat
  ['\\', 'u'] ++
    List.replicate (4 - digits.length) '0' ++ digits

/- A character inside the quotes. -/
def escape (c : Char) : List Char :=
  if c = '"' then ['\\', '"']
  else if c = '\\' then ['\\', '\\']
  else if c = '\n' then ['\\', 'n']
  else if c = '\r' then ['\\', 'r']
  else if c = '\t' then ['\\', 't']
  else if c = '\x08' then ['\\', 'b']
  else if c = '\x0c' then ['\\', 'f']
  else if c.toNat < 0x20 then control c
  else [c]

/- A string in quotes. -/
def quoted (s : String) : String :=
  String.ofList ('"' :: s.toList.flatMap escape ++ ['"'])

/-
  Floating-point numbers have a point or an exponent, the
  latter from 10^16 upwards and below 10^-5.
-/
def floatLayout : Layout where
  tie := .even
  isPositional e := -5 ≤ e && e < 16
  wholeEnd := ['.', '0']
  oneDigitEnd := []
  mark := 'e'
  plus := ['+']

/- A number; what JSON has no number for is null. -/
def number : Binary64 → String
  | .finite negative rank => floatLayout.write negative rank
  | _ => "null"

/- A name and the mark that its value follows. -/
def named (name mark value : String) : String :=
  quoted name ++ mark ++ value

------------------------------------------------------------
-- Compact Layout
------------------------------------------------------------

mutual

/- A document without any blanks. -/
def compact : Json → String
  | .null => "null"
  | .boolean b => if b then "true" else "false"
  | .integer n => n.repr
  | .float x => number x
  | .string s => quoted s
  | .array items =>
      "[" ++ ",".intercalate (compactItems items) ++ "]"
  | .object members =>
      "\x7b" ++ ",".intercalate (compactMembers members) ++
        "\x7d"

/- The items of an array. -/
def compactItems : List Json → List String
  | [] => []
  | item :: items => item.compact :: compactItems items

/- The members of an object. -/
def compactMembers : List (String × Json) → List String
  | [] => []
  | (name, value) :: members =>
      named name ":" value.compact :: compactMembers members

end

------------------------------------------------------------
-- Layout By Lines
------------------------------------------------------------

/- A line end, and two blanks for each level of depth. -/
def lineStart (depth : Nat) : String :=
  String.ofList ('\n' :: List.replicate (2 * depth) ' ')

/-
  Items between brackets, each on a line of its own; without
  items the brackets stay together.
-/
def block
    (opening closing : String)
    (depth : Nat)
    (items : List String) : String :=
  if items.isEmpty then opening ++ closing
  else
    opening ++ lineStart (depth + 1) ++
      ("," ++ lineStart (depth + 1)).intercalate items ++
      lineStart depth ++ closing

mutual

/- A document at a depth, one member a line. -/
def prettyAt
    (depth : Nat) : Json → String
  | .null => "null"
  | .boolean b => if b then "true" else "false"
  | .integer n => n.repr
  | .float x => number x
  | .string s => quoted s
  | .array items =>
      block "[" "]" depth (prettyItems (depth + 1) items)
  | .object members =>
      block "\x7b" "\x7d" depth
        (prettyMembers (depth + 1) members)

/- The items of an array. -/
def prettyItems
    (depth : Nat) : List Json → List String
  | [] => []
  | item :: items =>
      prettyAt depth item :: prettyItems depth items

/- The members of an object. -/
def prettyMembers
    (depth : Nat) : List (String × Json) → List String
  | [] => []
  | (name, value) :: members =>
      named name ": " (prettyAt depth value) ::
        prettyMembers depth members

end

/- A document, one member a line. -/
def pretty (document : Json) : String :=
  prettyAt 0 document

end Json

end Rulebook
