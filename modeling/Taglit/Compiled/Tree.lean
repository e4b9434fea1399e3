import Taglit.Compiled.Attribute

/-!
# Compiled trees

The body of every compiled construct is a block: statements that run first, and a template literal
in segments (*quasis*) with a *slot* between each two of them.  A statement or a slot is a source,
or a compiled node of its own, so that nesting composes at any depth.

Blocks are built step by step, and only a *closed* one, with one more quasi than slots, is finished.
-/

namespace Taglit.Compiled

/-- A statement or a slot of a block: a source, or a compiled node. -/
inductive Piece (ν : Type) where
  | source (text : String)
  | node (node : ν)

/-- The body of a compiled construct: the name of the function that it makes, the statements that
run first, and the template literal, whose slot `i` stands between the quasis `i` and `i + 1`. -/
structure Block (ν : Type) where
  name : String
  code : List (Piece ν) := []
  quasis : List String := []
  slots : List (Piece ν) := []

/-- What a mixin node stands for: the definition of a mixin with its parameters, or its use with
attributes. -/
inductive Role where
  | definition (args : Option String)
  | call (attributes : List Attribute)
  deriving DecidableEq

/-- A compiled construct: a block alone, the body for each entry of an object, one of two branches
(the block, or the alternate), a mixin, or the whole template with the lines that import what it
includes. -/
inductive Node where
  | block (block : Block Node)
  | each (object value : String) (key : Option String) (block : Block Node)
  | condition (test : String) (alternate : Option (Block Node)) (block : Block Node)
  | mixin (role : Role) (block : Block Node)
  | root (imports : List String) (block : Block Node)

/-- A compiled template: its block, and the lines that import what it includes. -/
structure Root where
  block : Block Node
  imports : List String := []

/-- The template as a node. -/
def Root.toNode (root : Root) : Node :=
  .root root.imports root.block

namespace Block

variable {ν : Type}

/-- A block without a body that is closed already. -/
def empty (name : String) : Block ν :=
  { name, quasis := [""] }

/-- Add a statement. -/
def pushStatement (block : Block ν) (statement : Piece ν) : Block ν :=
  { block with code := block.code ++ [statement] }

/-- Add a quasi and the slot after it. -/
def pushSlot (block : Block ν) (quasi : String) (slot : Piece ν) : Block ν :=
  { block with quasis := block.quasis ++ [quasi], slots := block.slots ++ [slot] }

/-- Add the last quasi. -/
def close (block : Block ν) (quasi : String) : Block ν :=
  { block with quasis := block.quasis ++ [quasi] }

/-- Whether there is one more quasi than slots. -/
def isClosed (block : Block ν) : Bool :=
  block.quasis.length == block.slots.length + 1

end Block

namespace Node

/-- The body of a node. -/
def body : Node → Block Node
  | block b => b
  | each _ _ _ b => b
  | condition _ _ b => b
  | mixin _ b => b
  | root _ b => b

/-- The name of a node's kind. -/
def kind : Node → String
  | block _ => "Block"
  | each .. => "Each"
  | condition .. => "Condition"
  | mixin .. => "Mixin"
  | root .. => "Root"

end Node

/-! ## Counting nodes -/

mutual

/-- The number of nodes in a node, itself included. -/
def Node.count : Node → Nat
  | .block b => countBlock b
  | .each _ _ _ b => countBlock b
  | .condition _ alternate b => countBlock b + countAlternate alternate
  | .mixin _ b => countBlock b
  | .root _ b => countBlock b

/-- The number of nodes in a block, counted as one itself. -/
def countBlock : Block Node → Nat
  | ⟨_, code, _, slots⟩ => 1 + countPieces slots + countPieces code

/-- The number of nodes in the branch that may not be there. -/
def countAlternate : Option (Block Node) → Nat
  | none => 0
  | some b => countBlock b

/-- The number of nodes in a list of statements or slots. -/
def countPieces : List (Piece Node) → Nat
  | [] => 0
  | .source _ :: pieces => countPieces pieces
  | .node n :: pieces => n.count + countPieces pieces

end

/-- The number of nodes in a template, itself included. -/
def Root.count (root : Root) : Nat :=
  countBlock root.block

end Taglit.Compiled
