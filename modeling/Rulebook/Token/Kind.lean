/-
  The kinds of tokens.

  Key definitions include:
    * `Symbol`
    * `Symbol.spelling`
    * `Symbol.ofPair?`
    * `Symbol.ofChar?`
    * `Keyword`
    * `Keyword.ofWord?`
    * `TokenKind`
    * `TokenKind.name`
    * `TokenKind.ofName?`
-/

namespace Rulebook

------------------------------------------------------------
-- Symbols
------------------------------------------------------------

/- Tokens that are always spelled with the same signs. -/
inductive Symbol where
  | leftBrace
  | rightBrace
  | leftParen
  | rightParen
  | comma
  | dot
  | assign
  | equal
  | notEqual
  | greaterEqual
  | lessEqual
  | greater
  | less
  | plus
  | minus
  | star
  | slash
deriving DecidableEq, Repr

namespace Symbol

/- All symbols. -/
def all : List Symbol :=
  [.leftBrace, .rightBrace, .leftParen, .rightParen,
   .comma, .dot, .assign, .equal, .notEqual,
   .greaterEqual, .lessEqual, .greater, .less, .plus,
   .minus, .star, .slash]

/- The characters of a symbol. -/
def spelling : Symbol → List Char
  | .leftBrace => ['\x7b']
  | .rightBrace => ['\x7d']
  | .leftParen => ['(']
  | .rightParen => [')']
  | .comma => [',']
  | .dot => ['.']
  | .assign => ['=']
  | .equal => ['=', '=']
  | .notEqual => ['!', '=']
  | .greaterEqual => ['>', '=']
  | .lessEqual => ['<', '=']
  | .greater => ['>']
  | .less => ['<']
  | .plus => ['+']
  | .minus => ['-']
  | .star => ['*']
  | .slash => ['/']

/- The symbol of two characters. -/
def ofPair? (c d : Char) : Option Symbol :=
  all.find? fun s => s.spelling = [c, d]

/- The symbol of one character. -/
def ofChar? (c : Char) : Option Symbol :=
  all.find? fun s => s.spelling = [c]

/- The name in tables and messages. -/
def name : Symbol → String
  | .leftBrace => "LBRACE"
  | .rightBrace => "RBRACE"
  | .leftParen => "LPAREN"
  | .rightParen => "RPAREN"
  | .comma => "COMMA"
  | .dot => "DOT"
  | .assign => "EQ"
  | .equal => "EQEQ"
  | .notEqual => "NE"
  | .greaterEqual => "GE"
  | .lessEqual => "LE"
  | .greater => "GT"
  | .less => "LT"
  | .plus => "PLUS"
  | .minus => "MINUS"
  | .star => "STAR"
  | .slash => "SLASH"

/- The symbols that are spelled with an equals sign. -/
def holdsEquals (s : Symbol) : Bool :=
  s.spelling.contains '='

end Symbol

------------------------------------------------------------
-- Keywords
------------------------------------------------------------

/- Words with a meaning of their own, in any case. -/
inductive Keyword where
  | rule
  | test
  | when
  | andThen
  | given
  | expect
  | and
  | or
  | not
  | true
  | false
  | null
  | undefined
deriving DecidableEq, Repr

namespace Keyword

/- All keywords. -/
def all : List Keyword :=
  [.rule, .test, .when, .andThen, .given, .expect, .and,
   .or, .not, .true, .false, .null, .undefined]

/- The keyword in lower case. -/
def word : Keyword → String
  | .rule => "rule"
  | .test => "test"
  | .when => "when"
  | .andThen => "then"
  | .given => "given"
  | .expect => "expect"
  | .and => "and"
  | .or => "or"
  | .not => "not"
  | .true => "true"
  | .false => "false"
  | .null => "null"
  | .undefined => "undefined"

/- The keyword of a word in lower case. -/
def ofWord? (word : String) : Option Keyword :=
  all.find? fun k => k.word = word

/- The name in tables and messages. -/
def name : Keyword → String
  | .rule => "RULE"
  | .test => "TEST"
  | .when => "WHEN"
  | .andThen => "THEN"
  | .given => "GIVEN"
  | .expect => "EXPECT"
  | .and => "AND"
  | .or => "OR"
  | .not => "NOT"
  | .true => "TRUE"
  | .false => "FALSE"
  | .null => "NULL"
  | .undefined => "UNDEFINED"

end Keyword

------------------------------------------------------------
-- Kinds
------------------------------------------------------------

/-
  The kind of a token.  A line end is a token, because it ends
  a statement; the end of the text is one as well.
-/
inductive TokenKind where
  | symbol (s : Symbol)
  | keyword (k : Keyword)
  | number
  | string
  | identifier
  | newline
  | finish
deriving DecidableEq, Repr

namespace TokenKind

/- All kinds. -/
def all : List TokenKind :=
  Symbol.all.map symbol ++ Keyword.all.map keyword ++
    [number, string, identifier, newline, finish]

/- The name in tables and messages. -/
def name : TokenKind → String
  | .symbol s => s.name
  | .keyword k => k.name
  | .number => "NUMBER"
  | .string => "STRING"
  | .identifier => "IDENT"
  | .newline => "NEWLINE"
  | .finish => "EOF"

/- The kind of a name. -/
def ofName? (name : String) : Option TokenKind :=
  all.find? fun kind => kind.name = name

end TokenKind

end Rulebook
