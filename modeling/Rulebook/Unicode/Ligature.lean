import Rulebook.Unicode.Width

/-
  Display width of a text: the number of columns that it takes
  on a terminal.  It is the sum of the widths of its characters
  but for ligatures, sequences that are drawn as one shape.  A
  text is read from its end, because what a character adds
  depends on what follows it.

  Key definitions include:
    * `Opening`
    * `Extent`
    * `Extent.cons`
    * `textWidth`
-/

namespace Rulebook.Unicode

------------------------------------------------------------
-- Characters of ligatures
------------------------------------------------------------

/- The Arabic letters of the joining group of lam. -/
def lams : Ranges :=
  [(0x644, 0x644), (0x6B5, 0x6B8), (0x76A, 0x76A),
   (0x8A6, 0x8A6), (0x8C7, 0x8C7)]

/- The Arabic letters of the joining group of alef. -/
def alefs : Ranges :=
  [(0x622, 0x623), (0x625, 0x625), (0x627, 0x627),
   (0x671, 0x673), (0x675, 0x675), (0x773, 0x774),
   (0x870, 0x882)]

/- The Khmer letters that have a form below another letter. -/
def khmerSubjoined : Ranges :=
  [(0x1780, 0x1782), (0x1784, 0x1787), (0x1789, 0x178C),
   (0x178E, 0x1793), (0x1795, 0x1798), (0x179B, 0x179D),
   (0x17A0, 0x17A0), (0x17A2, 0x17A2), (0x17A7, 0x17A7),
   (0x17AB, 0x17AC), (0x17AF, 0x17AF)]

/- The sign that puts the next Khmer letter below. -/
def khmerCoeng : Char :=
  '\u17D2'

/- The consonants of Tifinagh. -/
def tifinaghConsonants : Ranges :=
  [(0x2D31, 0x2D65), (0x2D6F, 0x2D6F)]

/- The Lisu tone letters that begin a pair. -/
def lisuFirstTones : Ranges :=
  [(0xA4F8, 0xA4FB)]

/- The Lisu tone letters that end a pair. -/
def lisuSecondTones : Ranges :=
  [(0xA4FC, 0xA4FD)]

/- The emoji that give the one before them a skin tone. -/
def skinTones : Ranges :=
  [(0x1F3FB, 0x1F3FF)]

/- The emoji that take a skin tone. -/
def skinToned : Ranges :=
  [(0x261D, 0x261D), (0x26F9, 0x26F9), (0x270A, 0x270D),
   (0x1F385, 0x1F385), (0x1F3C2, 0x1F3C4), (0x1F3C7, 0x1F3C7),
   (0x1F3CA, 0x1F3CC), (0x1F442, 0x1F443), (0x1F446, 0x1F450),
   (0x1F466, 0x1F478), (0x1F47C, 0x1F47C), (0x1F481, 0x1F483),
   (0x1F485, 0x1F487), (0x1F48F, 0x1F48F), (0x1F491, 0x1F491),
   (0x1F4AA, 0x1F4AA), (0x1F574, 0x1F575), (0x1F57A, 0x1F57A),
   (0x1F590, 0x1F590), (0x1F595, 0x1F596), (0x1F645, 0x1F647),
   (0x1F64B, 0x1F64F), (0x1F6A3, 0x1F6A3), (0x1F6B4, 0x1F6B6),
   (0x1F6C0, 0x1F6C0), (0x1F6CC, 0x1F6CC), (0x1F90C, 0x1F90C),
   (0x1F90F, 0x1F90F), (0x1F918, 0x1F91F), (0x1F926, 0x1F926),
   (0x1F930, 0x1F939), (0x1F93C, 0x1F93E), (0x1F977, 0x1F977),
   (0x1F9B5, 0x1F9B6), (0x1F9B8, 0x1F9B9), (0x1F9BB, 0x1F9BB),
   (0x1F9CD, 0x1F9CF), (0x1F9D1, 0x1F9DD), (0x1FAC3, 0x1FAC5),
   (0x1FAF0, 0x1FAF8)]

/- The vowel sign of aa of Kirat Rai. -/
def kiratAa : Char :=
  Char.ofNat 0x16D63

/- The vowel sign of e of Kirat Rai. -/
def kiratE : Char :=
  Char.ofNat 0x16D67

/- The vowel sign of ai of Kirat Rai, composed of e and e. -/
def kiratAi : Char :=
  Char.ofNat 0x16D68

/- The vowel sign of o of Kirat Rai, composed of aa and e. -/
def kiratO : Char :=
  Char.ofNat 0x16D69

------------------------------------------------------------
-- Extents
------------------------------------------------------------

/-
  What a text begins with, as far as the character before it
  may form a ligature with it.
-/
inductive Opening where
  | plain
  | alef
  | khmerSubjoined
  | tifinaghConsonant
  | tifinaghJoined
  | lisuSecondTone
  | skinTone
  | kiratE
  | kiratAi
deriving DecidableEq, Repr

/- The opening of a text that begins with a character. -/
def Opening.ofChar (c : Char) : Opening :=
  if c.toNat < 0x80 then .plain
  else if alefs.contains c then .alef
  else if Unicode.khmerSubjoined.contains c then
    .khmerSubjoined
  else if tifinaghConsonants.contains c then
    .tifinaghConsonant
  else if lisuSecondTones.contains c then .lisuSecondTone
  else if skinTones.contains c then .skinTone
  else if c = Unicode.kiratE then .kiratE
  else if c = Unicode.kiratAi then .kiratAi
  else .plain

/- The columns of a text, and what it begins with. -/
structure Extent where
  columns : Nat
  opening : Opening
deriving DecidableEq, Repr

namespace Extent

/- The extent of the empty text. -/
def empty : Extent :=
  ⟨0, .plain⟩

/-
  The extent of a text in which a first character forms a
  ligature with what follows it, if it does.  A lam reaches
  over marks to its alef.  A Khmer letter below another takes
  no column, and two joined Tifinagh consonants share one with
  their joiner.  Each composed vowel sign of Kirat Rai takes
  one column, also where its parts are written apart; au is
  composed of o and e, that is of aa, e and e.
-/
def ligature?
    (c : Char)
    (rest : Extent) : Option Extent :=
  match rest.opening with
  | .plain => none
  | .alef =>
      if lams.contains c then some ⟨rest.columns, .plain⟩
      else if isNonspacing c && c != tifinaghJoiner then
        some ⟨rest.columns, .alef⟩
      else none
  | .khmerSubjoined =>
      if c = khmerCoeng then
        some ⟨rest.columns - 1, .plain⟩
      else none
  | .tifinaghConsonant =>
      if c = tifinaghJoiner then
        some ⟨rest.columns + 1, .tifinaghJoined⟩
      else none
  | .tifinaghJoined =>
      if tifinaghConsonants.contains c then
        some ⟨rest.columns - 1, .plain⟩
      else none
  | .lisuSecondTone =>
      if lisuFirstTones.contains c then
        some ⟨rest.columns, .plain⟩
      else none
  | .skinTone =>
      if skinToned.contains c then
        some ⟨rest.columns, .plain⟩
      else none
  | .kiratE =>
      if c = kiratAa || c = kiratO then
        some ⟨rest.columns, .plain⟩
      else if c = Unicode.kiratE then
        some ⟨rest.columns, .kiratAi⟩
      else if c = Unicode.kiratAi then
        some ⟨rest.columns + 1, .kiratE⟩
      else none
  | .kiratAi =>
      if c = kiratAa then some ⟨rest.columns, .plain⟩
      else none

/- The extent of a text with a character put before it. -/
def cons (c : Char) (rest : Extent) : Extent :=
  match ligature? c rest with
  | some joined => joined
  | none => ⟨width c + rest.columns, Opening.ofChar c⟩

/-
  Before a text that begins no ligature a character adds its
  own width.
-/
theorem columns_cons_of_plain
    (c : Char)
    (rest : Extent)
    (h : rest.opening = .plain) :
    (cons c rest).columns = width c + rest.columns := by
  simp [cons, ligature?, h]

end Extent

/- The columns that a text of printable characters takes. -/
def textWidth (text : String) : Nat :=
  (text.toList.foldr Extent.cons Extent.empty).columns

end Rulebook.Unicode
