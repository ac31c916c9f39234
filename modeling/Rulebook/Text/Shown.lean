import Rulebook.Unicode.Extender
import Rulebook.Unicode.Printable

/-
  Texts made safe to show: characters that a reader could not
  see, or could not tell apart, are written as escapes.

  Key definitions include:
    * `Shown.code`
    * `Shown.char`
    * `Shown.quoted`
    * `Shown.bare`
-/

namespace Rulebook.Shown

/-
  The escape of a character by its number, in the fewest
  lowercase hexadecimal digits.
-/
def code (c : Char) : List Char :=
  ['\\', 'u', '\x7b'] ++ Nat.toDigits 16 c.toNat ++
    ['\x7d']

/-
  A character as it is shown.  The marks in `marks` take a
  backslash; `byCode` tells which printable characters are
  shown by their number all the same.
-/
def char
    (marks : List Char)
    (byCode : Char → Bool)
    (c : Char) : List Char :=
  if c = '\x00' then ['\\', '0']
  else if c = '\t' then ['\\', 't']
  else if c = '\r' then ['\\', 'r']
  else if c = '\n' then ['\\', 'n']
  else if c = '\\' || marks.contains c then ['\\', c]
  else if byCode c || !Unicode.isPrintable c then code c
  else [c]

/-
  A text in double quotes.  Grapheme extenders are shown by
  number wherever they stand.
-/
def quoted (text : String) : String :=
  String.ofList
    ('"' ::
      text.toList.flatMap
        (char ['"'] Unicode.isExtender) ++
      ['"'])

/-
  A text without quotes around it.  A grapheme extender is
  shown by number only where it has nothing to be drawn on,
  as the first character.
-/
def bare (text : String) : String :=
  match text.toList with
  | [] => ""
  | first :: rest =>
      String.ofList
        (char ['"', '\''] Unicode.isExtender first ++
          rest.flatMap (char ['"', '\''] fun _ => false))

end Rulebook.Shown
