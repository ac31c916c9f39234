import Rulebook.Json.Document
import Rulebook.Source
import Rulebook.Token.Table

/-
  The commands on a source text and what they print.

  Key definitions include:
    * `Command`
    * `Format`
    * `Execution`
    * `CommandError`
    * `Command.execute`
    * `sampleProgram`
-/

namespace Rulebook

/-
  What to do with a source: list its tokens, show its tree, run
  its tests, or only look for errors in its structure.
-/
inductive Command where
  | tokens
  | parse
  | run (keepGoing : Bool)
  | check
deriving DecidableEq, Repr

/- The form of the output. -/
inductive Format where
  | text
  | json
deriving DecidableEq, Repr

/- The output, and whether all tests passed. -/
structure Execution where
  output : String
  success : Bool
deriving DecidableEq, Repr

------------------------------------------------------------
-- Errors
------------------------------------------------------------

/- Why a command has no output. -/
inductive CommandError where
  | source (e : SourceError)
  | io (text : String)
  | noInput
deriving DecidableEq, Repr

namespace CommandError

/- The wording of an error. -/
def message : CommandError → String
  | .source e => e.message
  | .io text => "IO error: " ++ text
  | .noInput =>
      "No input provided. Pass a FILE or pipe BizSpec " ++
        "source to stdin."

/- The wordings of what lies behind an error. -/
def causes : CommandError → List String
  | .source e => [e.message, e.cause]
  | .io text => [text]
  | .noInput => []

end CommandError

------------------------------------------------------------
-- Execution
------------------------------------------------------------

namespace Command

/- A document with a line end. -/
def documentText (document : Json) : String :=
  document.pretty ++ "\n"

/- The output of a list of tokens. -/
def tokensOutput
    (format : Format)
    (tokens : List Token) : String :=
  match format with
  | .text =>
      Token.table tokens ++ "\nTokens: " ++
        tokens.length.repr ++ "\n"
  | .json => documentText (Token.documents tokens)

/- The output of a program tree. -/
def treeOutput
    (format : Format)
    (program : Node) : String :=
  match format with
  | .text => program.text
  | .json => documentText program.document

/- The output of a report. -/
def reportOutput
    (format : Format)
    (report : RunReport) : String :=
  match format with
  | .text => report.text
  | .json => documentText report.document

/- Carry out a command. -/
def perform
    (command : Command)
    (format : Format)
    (source : String) : Except SourceError Execution :=
  match command with
  | .tokens =>
      (Source.tokens source).map fun tokens =>
        ⟨tokensOutput format tokens, true⟩
  | .parse =>
      (Source.program source).map fun program =>
        ⟨treeOutput format program, true⟩
  | .run keepGoing =>
      (Source.run keepGoing source).map fun report =>
        ⟨reportOutput format report, report.allPassed⟩
  | .check =>
      (Source.program source).map fun _ =>
        ⟨"Syntax is valid\n", true⟩

/- Carry out a command, errors taken as those of commands. -/
def execute
    (command : Command)
    (format : Format)
    (source : String) : Except CommandError Execution :=
  (command.perform format source).mapError .source

end Command

------------------------------------------------------------
-- Sample
------------------------------------------------------------

/-
  A program on the cost of shipping: four rules with one target,
  and a test.
-/
def sampleProgram : String :=
  String.join
    (["# Reglas de ejemplo",
      "rule \"Envío gratis\" when carrito.total >= 100000 " ++
        "then envio = 0",
      "rule \"Envío base\"   when envio == null or " ++
        "envio == undefined then envio = 9900",
      "rule \"Envío internacional\" when destino == \"USA\" " ++
        "then envio = 50000",
      "rule \"Envío promocional\" when cupon == " ++
        "\"ENVIO10\" then envio = 1000",
      "",
      "# Tests",
      "test \"Orden 123\" \x7b",
      "  given carrito.total=120000",
      "  expect envio == 0",
      "\x7d"].map (· ++ "\n"))

end Rulebook
