import Taglit.Proofs.Compiled.Scoping

/-!
# Counting the nodes of a compiled template

The count of a compiled template goes through its slots, its alternates and its statements.  It is
the number of its blocks, and these are the template's own and one for each body of the markup tree
that is compiled into a block of its own.  `bodiesIn` counts such bodies over a list of nodes, and
`count_compileTree` says what this means for the visited nodes of the tree: hoisting a definition
moves its block, and neither adds one nor loses one.
-/

namespace Taglit.Markup.Node

/-! ## Bodies of a node -/

/-- An iteration with a body. -/
def isIteration : Node → Bool
  | each _ _ _ body => body.isSome
  | _ => false

/-- A branching. -/
def isBranching : Node → Bool
  | conditional .. => true
  | _ => false

/-- A branching with two branches. -/
def hasAlternate : Node → Bool
  | conditional _ _ alternate => alternate.isSome
  | _ => false

/-- The use of a mixin. -/
def isCall : Node → Bool
  | mixin _ _ _ call _ => call
  | _ => false

/-- The definition of a mixin. -/
def isDefinition : Node → Bool
  | mixin _ _ _ call _ => !call
  | _ => false

/-- The number of bodies that nodes are compiled into: one for an iteration with a body, one for
each branch, one for the use of a mixin and one for its definition. -/
def bodiesIn (nodes : List Node) : Nat :=
  nodes.countP isIteration + nodes.countP isBranching + nodes.countP hasAlternate +
    nodes.countP isCall + nodes.countP isDefinition

/-- The bodies of two lists of nodes. -/
theorem bodiesIn_append (xs ys : List Node) : bodiesIn (xs ++ ys) = bodiesIn xs + bodiesIn ys := by
  simp only [bodiesIn, List.countP_append]
  omega

/-- The bodies of a node come on top of those of the others. -/
theorem bodiesIn_cons (node : Node) (nodes : List Node) :
    bodiesIn (node :: nodes) = bodiesIn [node] + bodiesIn nodes :=
  bodiesIn_append [node] nodes

/-- A branching has one body, or two. -/
theorem bodiesIn_conditional (test : String) (consequent : List Node) (alternate : Option Node) :
    bodiesIn [conditional test consequent alternate] = 1 + if alternate.isSome then 1 else 0 := by
  cases alternate <;> rfl

end Taglit.Markup.Node

namespace Taglit.Compiled

open Taglit.Output (Options)
open Taglit.Markup.Node (visited visitedAll visitedBody visitedAlternate bodiesIn bodiesIn_append
  bodiesIn_cons bodiesIn_conditional isIteration isBranching hasAlternate isCall isDefinition)

/-! ## Blocks are counted once -/

mutual

/-- The count of a node is the number of its blocks. -/
theorem Node.count_eq (n : Node) : n.count = n.blocks.length := by
  match n with
  | .block b => exact countBlock_eq b
  | .each _ _ _ b => exact countBlock_eq b
  | .condition _ alternate b =>
      rw [Node.count, Node.blocks, List.length_append, countBlock_eq b, countAlternate_eq alternate]
  | .mixin _ b => exact countBlock_eq b
  | .root _ b => exact countBlock_eq b

/-- A block is counted once, with the blocks inside it. -/
theorem countBlock_eq (b : Block Node) : countBlock b = b.blocks.length := by
  match b with
  | ⟨_, code, _, slots⟩ =>
      rw [countBlock, Block.blocks, List.length_cons, List.length_append, countPieces_eq slots,
        countPieces_eq code]
      omega

/-- The same for a branch that may not be there. -/
theorem countAlternate_eq (alternate : Option (Block Node)) :
    countAlternate alternate = (alternateBlocks alternate).length := by
  match alternate with
  | none => rfl
  | some b => exact countBlock_eq b

/-- The same for statements or slots. -/
theorem countPieces_eq (pieces : List (Piece Node)) :
    countPieces pieces = (pieceBlocks pieces).length := by
  match pieces with
  | [] => rfl
  | .source _ :: pieces => exact countPieces_eq pieces
  | .node n :: pieces =>
      rw [countPieces, pieceBlocks, List.length_append, Node.count_eq n, countPieces_eq pieces]

end

/-! ## Bodies become blocks -/

mutual

/-- The bodies of the visited nodes are the sites of the tree. -/
theorem length_sites (scope : Scope) (seen : Nat) (node : Markup.Node) :
    (sites scope seen node).length = bodiesIn (visited node) := by
  match node with
  | .block nodes =>
      rw [sites, visited, bodiesIn_cons, length_sitesAll scope seen nodes]
      exact (Nat.zero_add _).symm
  | .tag _ _ _ true => rfl
  | .tag _ _ children false =>
      rw [sites, visited, bodiesIn_cons, if_neg Bool.false_ne_true, if_neg Bool.false_ne_true,
        length_sitesBody scope seen children]
      exact (Nat.zero_add _).symm
  | .each _ _ _ none => rfl
  | .each _ _ _ (some body) =>
      rw [sites, visited, bodiesIn_cons, List.length_cons, length_sitesAll scope seen body]
      exact Nat.add_comm _ 1
  | .conditional _ consequent alternate =>
      -- the site of the second branch is counted with the branching, as `bodiesIn` counts it
      rw [sites, visited, bodiesIn_cons, bodiesIn_append, List.length_cons, List.length_append,
        length_sitesAll scope seen consequent, length_sitesAlternate scope _ alternate,
        bodiesIn_conditional]
      omega
  | .mixin _ _ body call _ =>
      rw [sites, visited, bodiesIn_cons, List.length_cons, length_sitesBody scope seen body]
      cases call <;> exact Nat.add_comm _ 1
  | .code _ _ => rfl
  | .doctype _ => rfl
  | .text _ => rfl
  | .rawInclude _ => rfl
  | .unsupported _ => rfl

/-- The same for a list of nodes. -/
theorem length_sitesAll (scope : Scope) (seen : Nat) (nodes : List Markup.Node) :
    (sitesAll scope seen nodes).length = bodiesIn (visitedAll nodes) := by
  match nodes with
  | [] => rfl
  | node :: nodes =>
      rw [sitesAll, visitedAll, bodiesIn_append, List.length_append, length_sites scope seen node,
        length_sitesAll scope _ nodes]

/-- The same for a body that may not be there. -/
theorem length_sitesBody (scope : Scope) (seen : Nat) (body : Option (List Markup.Node)) :
    (sitesBody scope seen body).length = bodiesIn (visitedBody body) := by
  match body with
  | none => rfl
  | some nodes => exact length_sitesAll scope seen nodes

/-- The second branch is a body of its own, of the branching and not of any node in it. -/
theorem length_sitesAlternate (scope : Scope) (seen : Nat) (alternate : Option Markup.Node) :
    (sitesAlternate scope seen alternate).length =
      (if alternate.isSome then 1 else 0) + bodiesIn (visitedAlternate alternate) := by
  match alternate with
  | none => rfl
  | some node =>
      rw [sitesAlternate, visitedAlternate, List.length_cons, length_sites scope seen node]
      exact Nat.add_comm _ 1

end

/-! ## Compiled templates -/

/-- A template has one node of its own, and one for each body in the tree. -/
theorem count_rootOf (tree : Markup.Node) (name : String) (options : Options) :
    (rootOf tree name options).count = 1 + bodiesIn (visited tree) := by
  have hperm := blocks_rootOf_perm tree name options
  calc (rootOf tree name options).count
      = (rootOf tree name options).blocks.length := countBlock_eq _
    _ = (sites { name, options } 0 tree).length + 1 := by
        rw [hperm.length_eq, List.length_cons, List.length_map]
    _ = 1 + bodiesIn (visited tree) := by
        rw [length_sites, Nat.add_comm]

/-- No node is counted among the statements of a body. -/
theorem countPieces_code_of_mem_tail {tree : Markup.Node} {name : String} {options : Options}
    {b : Block Node} (hb : b ∈ (rootOf tree name options).blocks.tail) :
    countPieces b.code = 0 := by
  rw [← (tail_blocks_perm tree name options).mem_iff] at hb
  obtain ⟨site, -, rfl⟩ := List.mem_map.mp hb
  rw [countPieces_eq]
  exact congrArg List.length (pieceBlocks_map_source _)

/-- How many nodes a compiled template has.

* There is one for the template, and one for each visited iteration with a body, branching, second
  branch, use of a mixin, with a body or without, and definition of a mixin, wherever it stands.
* The count is the number of blocks, each of which is counted once.
* Definitions are counted among the statements of the template, and no longer in the body that they
  were in. -/
theorem count_compileTree {tree : Markup.Node} {name : String} {options : Options} {root : Root}
    (h : compileTree tree name options = .ok root) :
    root.count = 1 + (visited tree).countP isIteration + (visited tree).countP isBranching +
      (visited tree).countP hasAlternate + (visited tree).countP isCall +
        (visited tree).countP isDefinition ∧
    root.count = root.blocks.length ∧ ∀ b ∈ root.blocks.tail, countPieces b.code = 0 := by
  obtain ⟨-, rfl⟩ := compileTree_eq_ok_iff.mp h
  refine ⟨?_, countBlock_eq _, fun b hb => countPieces_code_of_mem_tail hb⟩
  rw [count_rootOf, bodiesIn]
  omega

/-- A definition inside another one, an iteration below a self-closing tag, an iteration without a
body, and the use of a mixin in a branch. -/
theorem count_compileTree_definitions :
    ∃ root, compileTree (.block [
        .mixin "m" none (some [.mixin "n" none none false []]) false [],
        .tag "br" [] (some [.each "xs" "x" none (some [])]) true,
        .each "xs" "x" none
          (some [.conditional "x" [.mixin "m" none none true []] (some (.text "y"))]),
        .each "ys" "y" none none]) "t" {} = .ok root ∧ root.count = 7 := by
  refine ⟨_, compileTree_eq_ok_iff.mpr ⟨rfl, rfl⟩, ?_⟩
  exact (count_compileTree (compileTree_eq_ok_iff.mpr ⟨rfl, rfl⟩)).1

end Taglit.Compiled
