/-
  String literals in double quotes.  A backslash escapes the
  character after it: `n`, `t` and `r` stand for a line feed, a
  tab and a carriage return, any other character for itself.

  Key definitions include:
    * `Quoted.unescape`
    * `Quoted.escape`
    * `Quoted.encode`
    * `Quoted.decode`
    * `Quoted.literal`
-/

namespace Rulebook.Quoted

/- What an escaped character stands for. -/
def unescape : Char → Char
  | 'n' => '\n'
  | 't' => '\t'
  | 'r' => '\r'
  | c => c

/- A character as it is written inside the quotes. -/
def escape : Char → List Char
  | '"' => ['\\', '"']
  | '\\' => ['\\', '\\']
  | '\n' => ['\\', 'n']
  | '\t' => ['\\', 't']
  | '\r' => ['\\', 'r']
  | c => [c]

/- What stands between the quotes of the literal of a text. -/
def encode (contents : List Char) : List Char :=
  contents.flatMap escape

/- The text that is meant by what stands between the quotes. -/
def decode : List Char → List Char
  | '\\' :: c :: rest => unescape c :: decode rest
  | c :: rest => c :: decode rest
  | [] => []

/- The literal of a text. -/
def literal (contents : String) : String :=
  String.ofList ('"' :: encode contents.toList ++ ['"'])

end Rulebook.Quoted
