/-
  Trimming and splitting of texts.

  Key definitions include:
    * `stripEnds`
    * `splitAt`
-/

namespace Rulebook

/-
  The characters from the first one outside a class to the last
  one outside it.
-/
def stripEnds
    (inClass : Char → Bool)
    (chars : List Char) : List Char :=
  ((chars.dropWhile inClass).reverse.dropWhile
    inClass).reverse

/-
  The parts of a text between the occurrences of a character.
  There is one part more than occurrences.
-/
def splitAt (mark : Char) : List Char → List (List Char)
  | [] => [[]]
  | c :: chars =>
      if c = mark then [] :: splitAt mark chars
      else
        match splitAt mark chars with
        | [] => [[c]]
        | part :: parts => (c :: part) :: parts

end Rulebook
