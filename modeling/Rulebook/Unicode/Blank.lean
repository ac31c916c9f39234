import Rulebook.Text.Trim
import Rulebook.Unicode.Ranges

/-
  Blanks: the characters with the property White_Space.

  Key definitions include:
    * `isBlank`
    * `trim`
-/

namespace Rulebook.Unicode

/- The blanks. -/
def blanks : Ranges :=
  [(0x9, 0xD), (0x20, 0x20), (0x85, 0x85), (0xA0, 0xA0),
   (0x1680, 0x1680), (0x2000, 0x200A), (0x2028, 0x2029),
   (0x202F, 0x202F), (0x205F, 0x205F), (0x3000, 0x3000)]

/- A blank of any script, line ends among them. -/
def isBlank (c : Char) : Bool :=
  blanks.contains c

/- A text without the blanks at its two ends. -/
def trim (text : String) : String :=
  String.ofList (stripEnds isBlank text.toList)

end Rulebook.Unicode
