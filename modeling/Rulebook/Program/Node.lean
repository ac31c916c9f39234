import Rulebook.Text.Position

/-
  Program trees.

  Key definitions include:
    * `NodeKind`
    * `Node`
    * `Node.label`
    * `Node.outline`
    * `Node.text`
-/

namespace Rulebook

/- The kinds of nodes. -/
inductive NodeKind where
  | program
  | rule
  | when
  | set
  | target
  | value
  | test
  | given
  | expect
deriving DecidableEq, Repr

namespace NodeKind

/- All kinds. -/
def all : List NodeKind :=
  [.program, .rule, .when, .set, .target, .value, .test,
   .given, .expect]

/- The name of a kind. -/
def name : NodeKind → String
  | .program => "Program"
  | .rule => "Rule"
  | .when => "When"
  | .set => "Set"
  | .target => "Target"
  | .value => "Value"
  | .test => "Test"
  | .given => "Given"
  | .expect => "Expect"

/- The kind of a name. -/
def ofName? (name : String) : Option NodeKind :=
  all.find? fun kind => kind.name = name

end NodeKind

/-
  A node with its text: the name of a rule or a test, an
  expression, or a target path.  The order of its children is
  the order of the source.
-/
structure Node where
  kind : NodeKind
  content : String
  position : Position
  children : List Node

namespace Node

/- The first child of a kind. -/
def child?
    (node : Node)
    (kind : NodeKind) : Option Node :=
  node.children.find? (·.kind = kind)

/- The children of a kind. -/
def childrenOf
    (node : Node)
    (kind : NodeKind) : List Node :=
  node.children.filter (·.kind = kind)

------------------------------------------------------------
-- Text
------------------------------------------------------------

/- Kind, text and place of a node without its children. -/
def label (node : Node) : String :=
  let content :=
    if node.content = "" then ""
    else "(" ++ node.content ++ ")"
  node.kind.name ++ content ++ "@" ++ node.position.label

/- Two blanks for each level of depth. -/
def indent (depth : Nat) : String :=
  String.ofList (List.replicate (2 * depth) ' ')

mutual

/- The labels of a node and of all below it, with depths. -/
def outline
    (depth : Nat) : Node → List (Nat × String)
  | node@⟨_, _, _, children⟩ =>
      (depth, node.label) :: outlines (depth + 1) children

/- The labels of several nodes and of all below them. -/
def outlines
    (depth : Nat) : List Node → List (Nat × String)
  | [] => []
  | node :: nodes =>
      outline depth node ++ outlines depth nodes

end

/- The tree, one node a line, children behind their parent. -/
def text (node : Node) : String :=
  String.join
    ((outline 0 node).map fun entry =>
      indent entry.1 ++ entry.2 ++ "\n")

end Node

end Rulebook
