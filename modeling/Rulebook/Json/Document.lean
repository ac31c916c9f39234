import Rulebook.Json
import Rulebook.Program.Node
import Rulebook.Run.Report
import Rulebook.Token

/-
  JSON documents of tokens, program trees, values and reports.
  The members of every object are sorted by name.

  Key definitions include:
    * `Token.documents`
    * `Node.document`
    * `Value.document`
    * `Environment.document`
    * `RunReport.document`
-/

namespace Rulebook

/- A natural number as a document. -/
def Json.natural (n : Nat) : Json :=
  .integer n

------------------------------------------------------------
-- Tokens And Trees
------------------------------------------------------------

/- The document of a token at its place in a list. -/
def Token.document
    (t : Token)
    (index : Nat) : Json :=
  .object
    [("column", .natural t.position.column),
     ("index", .natural index),
     ("kind", .string t.kind.name),
     ("lexeme", .string t.lexeme),
     ("line", .natural t.position.line)]

/- The document of a list of tokens. -/
def Token.documents (tokens : List Token) : Json :=
  .array (tokens.mapIdx fun index t => t.document index)

mutual

/- The document of a tree. -/
def Node.document : Node → Json
  | ⟨kind, content, position, children⟩ =>
      .object
        [("children", .array (Node.documents children)),
         ("column", .natural position.column),
         ("kind", .string kind.name),
         ("line", .natural position.line),
         ("text", .string content)]

/- The documents of several trees. -/
def Node.documents : List Node → List Json
  | [] => []
  | node :: nodes => node.document :: Node.documents nodes

end

------------------------------------------------------------
-- Values
------------------------------------------------------------

/-
  The document of a number.  A whole literal that is smaller
  than 2^63 is a whole number; NaN and the infinities have no
  number in JSON.
-/
def Number.document (n : Number) : Json :=
  match n.value with
  | .finite _ rank =>
      if n.wholeLiteral && n.value.isWhole &&
          Binary64.wholePart rank < Binary64.signBit then
        .integer n.value.toInt64
      else
        .float n.value
  | _ => .null

mutual

/- The document of a value. -/
def Value.document : Value → Json
  | .null => .null
  | .boolean b => .boolean b
  | .number n => n.document
  | .string s => .string s
  | .mapping fields => .object fields.members

/- The members of the document of an environment. -/
def Environment.members :
    Environment → List (String × Json)
  | .empty => []
  | .field key value rest =>
      (key, value.document) :: rest.members

end

/- The document of an environment. -/
def Environment.document (env : Environment) : Json :=
  .object env.members

------------------------------------------------------------
-- Reports
------------------------------------------------------------

/- The document of a firing. -/
def Firing.document (f : Firing) : Json :=
  .object
    [("display", .string f.value.text),
     ("rule", .string f.rule),
     ("target", .string f.target.text),
     ("value", f.value.document)]

/- The document of an expectation. -/
def ExpectOutcome.document (outcome : ExpectOutcome) : Json :=
  .object
    [("expression", .string outcome.expression),
     ("passed", .boolean outcome.passed)]

/- The document of a test. -/
def TestReport.document (report : TestReport) : Json :=
  let error :=
    match report.error with
    | none => .null
    | some e => .string e.message
  .object
    [("environment", report.environment.document),
     ("error", error),
     ("expects", .array (report.expects.map (·.document))),
     ("firings", .array (report.firings.map (·.document))),
     ("name", .string report.name),
     ("passed", .boolean report.passed)]

/- The document of a run. -/
def RunReport.document (report : RunReport) : Json :=
  .object
    [("failed", .natural report.failed),
     ("passed", .natural report.passed),
     ("tests", .array (report.tests.map (·.document)))]

end Rulebook
