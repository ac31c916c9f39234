import Mathlib.Algebra.GroupWithZero.Nat
import Mathlib.Algebra.Order.BigOperators.Group.List
import Mathlib.Algebra.Order.Group.Nat
import Rulebook.Proofs.Program.Targets

/-
  The text of a program tree shows one node a line, except where
  a label has a line feed of its own.  Only the names of rules
  and tests can have one: escapes are undone in a name, whereas
  an expression is spelled with its escapes.

  Key definitions include:
    * `linesOf`
    * `lineFeeds`
    * `Node.preorder`
    * `Node.size`
    * `Node.line`
    * `Node.ShowsNodes`
    * `Node.extraLines`
    * `Node.names`

  Main results:
    * `Node.linesOf_text`
    * `Node.showsNodes_iff`
    * `Source.extraLines_of_program`
    * `Source.lines_of_program`
-/

namespace Rulebook

------------------------------------------------------------
-- Lines
------------------------------------------------------------

/-
  The lines of a text, each of which ends with a line feed.
  What stands behind the last line feed is no line.
-/
def linesOf (text : String) : List String :=
  (text.toList.splitOn '\n').dropLast.map String.ofList

/- The line feeds of a text. -/
def lineFeeds (text : String) : Nat :=
  text.toList.count '\n'

theorem lineFeeds_eq_zero_iff {text : String} :
    lineFeeds text = 0 ↔ '\n' ∉ text.toList :=
  List.count_eq_zero

/- A text with a line feed behind it makes lines of its own. -/
theorem splitOn_ended (texts : List String) :
    (String.join (texts.map (· ++ "\n"))).toList.splitOn '\n' =
      texts.flatMap (fun text => text.toList.splitOn '\n') ++
        [[]] := by
  induction texts with
  | nil => simp
  | cons text texts ih =>
      rw [String.toList_join] at ih ⊢
      rw [List.map_cons, List.flatMap_cons,
        String.toList_append, List.append_assoc,
        List.flatMap_cons, List.append_assoc, ← ih]
      exact List.splitOn_append_cons_self _ _

/- The lines of a text that ends with a line feed. -/
theorem linesOf_ended (texts : List String) :
    linesOf (String.join (texts.map (· ++ "\n"))) =
      texts.flatMap fun text =>
        (text.toList.splitOn '\n').map String.ofList := by
  rw [linesOf, splitOn_ended, List.dropLast_concat,
    List.map_flatMap]

/- There is one part more than there are marks between parts. -/
theorem length_splitOn
    (mark : Char)
    (chars : List Char) :
    (chars.splitOn mark).length = chars.count mark + 1 := by
  induction chars with
  | nil => simp
  | cons c chars ih =>
      rw [List.splitOn_cons_eq_if_modifyHead, List.count_cons]
      split
      · rw [List.length_cons, ih]
      · rw [List.length_modifyHead, ih, Nat.add_zero]

------------------------------------------------------------
-- Trees
------------------------------------------------------------

namespace Node

mutual

/-
  The nodes of a tree with their depths.  A node comes before
  those below it, and these come in the order of the children
  that they belong to.
-/
def preorder
    (depth : Nat) : Node → List (Nat × Node)
  | ⟨kind, content, position, children⟩ =>
      (depth, ⟨kind, content, position, children⟩) ::
        preorders (depth + 1) children

/- The same for several trees in a row. -/
def preorders
    (depth : Nat) : List Node → List (Nat × Node)
  | [] => []
  | node :: nodes =>
      preorder depth node ++ preorders depth nodes

end

mutual

/- The number of nodes in a tree. -/
def size : Node → Nat
  | ⟨_, _, _, children⟩ => 1 + sizes children

/- The number of nodes in several trees. -/
def sizes : List Node → Nat
  | [] => 0
  | node :: nodes => size node + sizes nodes

end

/- The line of a node: two blanks for each level, the label. -/
def line (entry : Nat × Node) : String :=
  indent entry.1 ++ entry.2.label

/-
  The text of a tree shows one node a line: there are as many
  lines as nodes, and each line is that of the node which has
  the same place in preorder.
-/
def ShowsNodes (tree : Node) : Prop :=
  (linesOf tree.text).length = tree.size ∧
    ∀ k : Nat,
      (linesOf tree.text)[k]? =
        (tree.preorder 0)[k]?.map line

/-
  The line feeds in the texts of all nodes of a tree.  Each of
  them makes a line that no node should have.
-/
def extraLines (tree : Node) : Nat :=
  ((tree.preorder 0).map fun entry =>
    lineFeeds entry.2.content).sum

/- The names of the rules and of the tests of a program. -/
def names (program : Node) : List String :=
  program.rules.map (·.name) ++ program.tests.map (·.name)

mutual

/- The outline of a tree has the labels of all its nodes. -/
theorem outline_eq_preorder
    (depth : Nat) :
    ∀ node : Node,
      node.outline depth =
        (node.preorder depth).map fun entry =>
          (entry.1, entry.2.label)
  | ⟨kind, content, position, children⟩ => by
      rw [outline, preorder, List.map_cons,
        outlines_eq_preorders]

theorem outlines_eq_preorders
    (depth : Nat) :
    ∀ nodes : List Node,
      outlines depth nodes =
        (preorders depth nodes).map fun entry =>
          (entry.1, entry.2.label)
  | [] => rfl
  | node :: nodes => by
      rw [outlines, preorders, List.map_append,
        outline_eq_preorder, outlines_eq_preorders]

end

mutual

/- Preorder has each node once. -/
theorem length_preorder
    (depth : Nat) :
    ∀ node : Node, (node.preorder depth).length = node.size
  | ⟨kind, content, position, children⟩ => by
      rw [preorder, size, List.length_cons, length_preorders,
        Nat.add_comm]

theorem length_preorders
    (depth : Nat) :
    ∀ nodes : List Node,
      (preorders depth nodes).length = sizes nodes
  | [] => rfl
  | node :: nodes => by
      rw [preorders, sizes, List.length_append,
        length_preorder, length_preorders]

end

/- The text of a tree is made of the lines of its nodes. -/
theorem text_eq_join (tree : Node) :
    tree.text =
      String.join
        (((tree.preorder 0).map line).map (· ++ "\n")) := by
  rw [text, outline_eq_preorder, List.map_map, List.map_map]
  rfl

/- The name of a kind has no line feed. -/
theorem lineFeeds_name (kind : NodeKind) :
    lineFeeds kind.name = 0 := by
  cases kind <;> decide

/- Nor has a place. -/
theorem lineFeeds_position (p : Position) :
    lineFeeds p.label = 0 := by
  have hDigits : ∀ n : Nat, '\n' ∉ Nat.toDigits 10 n :=
    fun n hMember =>
      absurd
        (Nat.isDigit_of_mem_toDigits (by decide) (by decide)
          hMember)
        (by decide)
  rw [lineFeeds_eq_zero_iff]
  simp [Position.label, hDigits]

/- The line feeds in the line of a node are its text's own. -/
theorem lineFeeds_line (entry : Nat × Node) :
    lineFeeds (line entry) = lineFeeds entry.2.content := by
  have hName := lineFeeds_name entry.2.kind
  have hPosition := lineFeeds_position entry.2.position
  unfold lineFeeds at hName hPosition ⊢
  unfold line label indent
  by_cases hNone : entry.2.content = ""
  · simp [hName, hPosition, hNone, List.count_replicate]
  · simp [hName, hPosition, hNone, List.count_replicate]

/- Each node has a line, and one more for each line feed. -/
theorem linesOf_text (tree : Node) :
    linesOf tree.text =
      (tree.preorder 0).flatMap fun entry =>
        ((line entry).toList.splitOn '\n').map
          String.ofList := by
  rw [text_eq_join, linesOf_ended, List.flatMap_map]

theorem length_linesOf_text (tree : Node) :
    (linesOf tree.text).length =
      tree.size + tree.extraLines := by
  have hLine :
      ∀ entry : Nat × Node,
        (((line entry).toList.splitOn '\n').map
            String.ofList).length =
          1 + lineFeeds entry.2.content := by
    intro entry
    rw [List.length_map, length_splitOn, ← lineFeeds_line,
      lineFeeds, Nat.add_comm]
  have hNodes :
      ((tree.preorder 0).map fun _ => 1).sum = tree.size := by
    simp [length_preorder]
  rw [linesOf_text, List.length_flatMap]
  simp only [hLine]
  rw [List.sum_map_add, hNodes, extraLines]

/-
  The text shows one node a line exactly if it has no more
  lines than nodes, since no node has less than one.
-/
theorem showsNodes_iff {tree : Node} :
    tree.ShowsNodes ↔ tree.extraLines = 0 := by
  constructor
  · rintro ⟨hCount, _⟩
    rwa [length_linesOf_text, Nat.add_eq_left] at hCount
  · intro hNone
    have hLine :
        ∀ entry ∈ tree.preorder 0,
          ((line entry).toList.splitOn '\n').map
              String.ofList =
            [line entry] := by
      intro entry hEntry
      have hHere : lineFeeds (line entry) = 0 := by
        rw [lineFeeds_line]
        exact
          List.sum_eq_zero_iff.mp hNone _
            (List.mem_map_of_mem hEntry)
      rw [List.splitOn_eq_singleton
        (lineFeeds_eq_zero_iff.mp hHere)]
      simp
    have hLines :
        linesOf tree.text = (tree.preorder 0).map line := by
      rw [linesOf_text, List.flatMap_congr hLine,
        List.map_eq_flatMap]
    refine ⟨?_, fun k => ?_⟩
    · rw [hLines, List.length_map, length_preorder]
    · rw [hLines, List.getElem?_map]

/- Several trees in a row are gone through one by one. -/
theorem preorders_eq_flatMap
    (depth : Nat)
    (nodes : List Node) :
    preorders depth nodes = nodes.flatMap (preorder depth) := by
  induction nodes with
  | nil => rfl
  | cons node nodes ih =>
      rw [preorders, ih, List.flatMap_cons]

end Node

------------------------------------------------------------
-- Texts Of Nodes
------------------------------------------------------------

/- What no text has and no mark between them is nowhere. -/
theorem not_mem_intercalate
    {c : Char}
    {mark : String}
    {texts : List String}
    (hMark : c ∉ mark.toList)
    (hTexts : ∀ text ∈ texts, c ∉ text.toList) :
    c ∉ (mark.intercalate texts).toList := by
  induction texts with
  | nil => simp
  | cons text texts ih =>
      rw [List.forall_mem_cons] at hTexts
      cases texts with
      | nil => simpa using hTexts.1
      | cons next texts =>
          rw [String.intercalate_cons_cons,
            String.toList_append, String.toList_append,
            List.mem_append, List.mem_append]
          rintro ((hHere | hHere) | hHere)
          · exact hTexts.1 hHere
          · exact hMark hHere
          · exact ih hTexts.2 hHere

namespace Grammar

/- The text of an expression has its strings escaped. -/
theorem lineFeeds_spellingOfTokens
    {tokens : List Token}
    (h : ∀ t ∈ tokens, Respellable t) :
    lineFeeds (spellingOfTokens tokens) = 0 := by
  rw [lineFeeds_eq_zero_iff]
  apply not_mem_intercalate (by decide)
  intro text hText
  rcases List.mem_map.mp hText with ⟨t, hT, rfl⟩
  rw [toList_spelling]
  exact (h t hT).newline_not_mem

/- The text of a target is made of names and dots. -/
theorem RuleSyntax.lineFeeds_target
    {r : RuleSyntax}
    (h :
      ∀ t ∈ r.tokens, Lexeme t.kind t.lexeme.toList) :
    lineFeeds r.target = 0 := by
  rw [lineFeeds_eq_zero_iff]
  apply not_mem_intercalate (by decide)
  intro name hName
  exact
    (lexeme_of_mem_names h name hName).newline_not_mem
      (by simp) (by simp)

/- The nodes of a rule. -/
theorem RuleSyntax.preorder_node
    (depth : Nat)
    (r : RuleSyntax) :
    r.node.preorder depth =
      [(depth, r.node), (depth + 1, r.whenNode),
       (depth + 1, r.setNode), (depth + 2, r.targetNode),
       (depth + 2, r.valueNode)] :=
  rfl

/- The nodes of a test. -/
theorem TestSyntax.preorder_node
    (depth : Nat)
    (t : TestSyntax) :
    t.node.preorder depth =
      (depth, t.node) ::
        t.clauses.map fun c => (depth + 1, c.node) := by
  have hClauses :
      Node.preorders (depth + 1)
          (t.clauses.map ClauseSyntax.node) =
        t.clauses.map fun c => (depth + 1, c.node) := by
    rw [Node.preorders_eq_flatMap, List.flatMap_map,
      List.map_eq_flatMap]
    rfl
  rw [← hClauses]
  rfl

/- The nodes of a program. -/
theorem ProgramSyntax.preorder_node (p : ProgramSyntax) :
    p.node.preorder 0 =
      (0, p.node) ::
        (p.constructs.map Construct.node).flatMap
          (Node.preorder 1) := by
  rw [← Node.preorders_eq_flatMap]
  rfl

/- The name of a rule or of a test. -/
def Construct.name : Construct → String
  | rule r => r.name.lexeme
  | test t => t.name.lexeme

theorem Construct.content_node (c : Construct) :
    c.node.content = c.name := by
  cases c <;> rfl

/-
  The names of a program are those of its rules and tests, with
  the rules in front.
-/
theorem ProgramSyntax.perm_names_node (p : ProgramSyntax) :
    (p.constructs.map Construct.name).Perm p.node.names := by
  have hNames :
      p.node.names =
        p.rules.map (·.name.lexeme) ++
          p.tests.map (·.name.lexeme) := by
    rw [Node.names, p.rules_node, p.tests_node, List.map_map,
      List.map_map]
    rfl
  rw [hNames, rules, tests]
  induction p.constructs with
  | nil => exact .nil
  | cons c list ih =>
      cases c with
      | rule r => exact ih.cons r.name.lexeme
      | test t =>
          refine (ih.cons t.name.lexeme).trans ?_
          exact List.perm_middle.symm

end Grammar

------------------------------------------------------------
-- Sources
------------------------------------------------------------

namespace Source

open Grammar

variable {source : String}
variable {p : ProgramSyntax}

/- No expression of an accepted source has a line feed. -/
theorem lineFeeds_of_mem_spans
    {entry : Node × List Token}
    (hText : tokenize source = .ok p.tokens)
    (h : entry ∈ p.spans) :
    lineFeeds entry.1.content = 0 := by
  rw [(ProgramSyntax.spells_of_mem_spans h).1]
  exact
    lineFeeds_spellingOfTokens
      (respellable_of_mem_spans hText h)

/- Below a rule or a test no text has a line feed. -/
theorem exists_below_construct
    {c : Construct}
    (depth : Nat)
    (hText : tokenize source = .ok p.tokens)
    (h : c ∈ p.constructs) :
    ∃ below,
      c.node.preorder depth = (depth, c.node) :: below ∧
        ∀ entry ∈ below, lineFeeds entry.2.content = 0 := by
  have hSpans :
      ∀ entry ∈ c.spans, lineFeeds entry.1.content = 0 :=
    fun entry hEntry =>
      lineFeeds_of_mem_spans hText
        (ProgramSyntax.mem_spans_of_construct h hEntry)
  have hTokens : c.tokens <:+: p.body :=
    ProgramSyntax.infix_of_mem_constructs h
  cases c with
  | rule r =>
      refine ⟨_, r.preorder_node depth, ?_⟩
      have hTarget : lineFeeds r.target = 0 :=
        RuleSyntax.lineFeeds_target fun t hT =>
          lexemes_of_body hText t (hTokens.subset hT)
      have hWhen := hSpans _ (.head _)
      have hValue := hSpans _ (.tail _ (.head _))
      simp only [List.forall_mem_cons]
      exact ⟨hWhen, rfl, hTarget, hValue, by simp⟩
  | test t =>
      refine ⟨_, t.preorder_node depth, ?_⟩
      intro entry hEntry
      rcases List.mem_map.mp hEntry with ⟨c, hC, rfl⟩
      exact hSpans (c.node, c.span) (List.mem_map_of_mem hC)

/- So no text has one but the name of a rule or of a test. -/
theorem rule_or_test_of_lineFeeds
    {entry : Nat × Node}
    (hText : tokenize source = .ok p.tokens)
    (hEntry : entry ∈ p.node.preorder 0)
    (hSome : lineFeeds entry.2.content ≠ 0) :
    entry.2.kind = .rule ∨ entry.2.kind = .test := by
  rw [p.preorder_node] at hEntry
  rcases List.mem_cons.mp hEntry with rfl | hBelow
  · exact absurd rfl hSome
  · rcases List.mem_flatMap.mp hBelow with
      ⟨node, hNode, hEntry⟩
    rcases List.mem_map.mp hNode with ⟨c, hC, rfl⟩
    rcases exists_below_construct 1 hText hC with
      ⟨below, hAll, hQuiet⟩
    rw [hAll] at hEntry
    rcases List.mem_cons.mp hEntry with rfl | hEntry
    · cases c with
      | rule r => exact .inl rfl
      | test t => exact .inr rfl
    · exact absurd (hQuiet entry hEntry) hSome

/- The line feeds of a construct are those of its name. -/
theorem lineFeeds_of_construct
    {c : Construct}
    (depth : Nat)
    (hText : tokenize source = .ok p.tokens)
    (h : c ∈ p.constructs) :
    ((c.node.preorder depth).map fun entry =>
      lineFeeds entry.2.content).sum =
        lineFeeds c.name := by
  rcases exists_below_construct depth hText h with
    ⟨below, hAll, hQuiet⟩
  have hBelow :
      (below.map fun entry =>
        lineFeeds entry.2.content).sum = 0 := by
    apply List.sum_eq_zero
    intro count hCount
    rcases List.mem_map.mp hCount with ⟨entry, hEntry, rfl⟩
    exact hQuiet entry hEntry
  rw [hAll, List.map_cons, List.sum_cons, hBelow,
    c.content_node, Nat.add_zero]

/- The line feeds of a program are those of its names. -/
theorem extraLines_of_program
    (hText : tokenize source = .ok p.tokens) :
    p.node.extraLines =
      (p.node.names.map lineFeeds).sum := by
  have hConstructs :
      ∀ list : List Construct,
        (∀ c ∈ list, c ∈ p.constructs) →
          (((list.map Construct.node).flatMap
              (Node.preorder 1)).map fun entry =>
            lineFeeds entry.2.content).sum =
          ((list.map Construct.name).map lineFeeds).sum := by
    intro list hList
    induction list with
    | nil => rfl
    | cons c list ih =>
        rw [List.forall_mem_cons] at hList
        rw [List.map_cons, List.flatMap_cons, List.map_append,
          List.sum_append, ih hList.2,
          lineFeeds_of_construct 1 hText hList.1]
        rfl
  have hRoot : lineFeeds p.node.content = 0 := rfl
  rw [Node.extraLines, p.preorder_node, List.map_cons,
    List.sum_cons, hRoot, Nat.zero_add,
    hConstructs _ fun _ h => h]
  exact (p.perm_names_node.map lineFeeds).sum_nat

/-
  The lines of the tree of an accepted source.  Only names of
  rules and tests can have line feeds, each of them adds a line,
  and the text shows one node a line exactly if there are none.
-/
theorem lines_of_program
    {tree : Node}
    (h : program source = .ok tree) :
    (∀ entry ∈ tree.preorder 0,
      '\n' ∈ entry.2.content.toList →
        entry.2.kind = .rule ∨ entry.2.kind = .test) ∧
    (linesOf tree.text).length =
      tree.size + (tree.names.map lineFeeds).sum ∧
    (tree.ShowsNodes ↔
      ∀ name ∈ tree.names, '\n' ∉ name.toList) := by
  rcases program_eq_ok_iff.mp h with ⟨p, hText, _, rfl⟩
  refine ⟨?_, ?_, ?_⟩
  · intro entry hEntry hSome
    refine rule_or_test_of_lineFeeds hText hEntry ?_
    rwa [Ne, lineFeeds_eq_zero_iff, not_not]
  · rw [Node.length_linesOf_text, extraLines_of_program hText]
  · rw [Node.showsNodes_iff, extraLines_of_program hText,
      List.sum_eq_zero_iff]
    simp [lineFeeds_eq_zero_iff]

/- Line feeds in expressions, one of them behind a backslash. -/
theorem lines_of_program_escapes :
    ∃ tree,
      program
          ("rule \"r\" when a == \"x\\ny\" " ++
            "then b = \"\\\n\"\n" ++
            "test \"t\" \x7b\n  expect b == \"\\n\"\n\x7d") =
        .ok tree ∧
      (∀ name ∈ tree.names, '\n' ∉ name.toList) ∧
      tree.ShowsNodes := by
  have hNames :
      (program
          ("rule \"r\" when a == \"x\\ny\" " ++
            "then b = \"\\\n\"\n" ++
            "test \"t\" \x7b\n  expect b == \"\\n\"\n\x7d")).map
          (fun tree =>
            decide (∀ name ∈ tree.names, '\n' ∉ name.toList)) =
        .ok true := by
    decide +kernel
  rcases map_eq_ok_iff.mp hNames with ⟨tree, hTree, hAll⟩
  have hPlain := of_decide_eq_true hAll
  exact
    ⟨tree, hTree, hPlain,
      (lines_of_program hTree).2.2.mpr hPlain⟩

/- A name can forge the line of a test that is not there. -/
theorem line_forged :
    ∃ tree,
      program
          "rule \"r)@1:1\\n  Test(t\" when a then b = 1" =
        .ok tree ∧
      tree.tests = [] ∧
      "  Test(t)@1:1" ∈ linesOf tree.text ∧
      ¬ tree.ShowsNodes := by
  have hForged :
      (program
          "rule \"r)@1:1\\n  Test(t\" when a then b = 1").map
          (fun tree =>
            decide
              (tree.tests = [] ∧
                "  Test(t)@1:1" ∈ linesOf tree.text ∧
                (linesOf tree.text).length ≠ tree.size)) =
        .ok true := by
    decide +kernel
  rcases map_eq_ok_iff.mp hForged with ⟨tree, hTree, hAll⟩
  rcases of_decide_eq_true hAll with
    ⟨hTests, hLine, hCount⟩
  exact
    ⟨tree, hTree, hTests, hLine, fun hShown =>
      hCount hShown.1⟩

end Source

end Rulebook
