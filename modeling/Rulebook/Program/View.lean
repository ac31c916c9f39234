import Rulebook.Program.Node

/-
  The rules and the test cases of a program tree.

  Key definitions include:
    * `Clause`
    * `Rule`
    * `TestCase`
    * `Node.rules`
    * `Node.tests`
-/

namespace Rulebook

/- The text of an expression and where it comes from. -/
structure Clause where
  text : String
  position : Position
deriving DecidableEq, Repr

/- A condition, and the assignment to make when it holds. -/
structure Rule where
  name : String
  condition : Clause
  target : String
  value : Clause
  position : Position
deriving DecidableEq, Repr

/- Assignments, and what to expect after the rules have run. -/
structure TestCase where
  name : String
  givens : List Clause
  expects : List Clause
  position : Position
deriving DecidableEq, Repr

namespace Node

/- The text of a node as a clause. -/
def clause (node : Node) : Clause :=
  ⟨node.content, node.position⟩

/-
  The rule of a node.  A part that the node does not have is
  empty, at the place of the node.
-/
def rule? (node : Node) : Option Rule :=
  if node.kind = .rule then
    let missing : Clause := ⟨"", node.position⟩
    let set := node.child? .set
    let target := set.bind (·.child? .target)
    let value := set.bind (·.child? .value)
    some
      { name := node.content
        condition :=
          ((node.child? .when).map clause).getD missing
        target := (target.map (·.content)).getD ""
        value := (value.map clause).getD missing
        position := node.position }
  else
    none

/- The test case of a node. -/
def test? (node : Node) : Option TestCase :=
  if node.kind = .test then
    some
      { name := node.content
        givens := (node.childrenOf .given).map clause
        expects := (node.childrenOf .expect).map clause
        position := node.position }
  else
    none

/- The rules of a program in the order of the source. -/
def rules (program : Node) : List Rule :=
  program.children.filterMap rule?

/- The test cases of a program in the order of the source. -/
def tests (program : Node) : List TestCase :=
  program.children.filterMap test?

end Node

end Rulebook
