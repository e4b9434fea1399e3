import Taglit.Compiled.Tree
import Taglit.Error

/-!
# From markup trees to compiled trees

A markup tree is compiled in one pass.  The pass writes into a block: literal markup gathers as the
*pending* text until a slot or the end of the block closes it.  The bodies of iterations, branches
and mixins are blocks of their own, into which the pass descends with nothing pending.

Definitions of mixins are hoisted out of wherever they stand into the statements of the template,
and so are the statements that stand in no body.  An included file becomes an import and a slot that
shows it.
-/

namespace Taglit.Compiled

open Taglit.Output (Options)

/-- What the whole pass has in common: the name of the template and of every block that is no mixin,
and how the constructs are written. -/
structure Scope where
  name : String
  options : Options

/-- What has been written so far: the markup that no slot has closed, the block that is being
written, the statements of the template, the lines that import what was included, and the number of
files included. -/
structure Draft where
  pending : String := ""
  target : Block Node
  hoisted : List (Piece Node) := []
  imports : List String := []
  includes : Nat := 0

namespace Draft

/-- Write literal markup as it is. -/
def write (draft : Draft) (markup : String) : Draft :=
  { draft with pending := draft.pending ++ markup }

/-- Write text. -/
def writeText (draft : Draft) (text : String) : Draft :=
  draft.write (Text.escapeTemplate text)

/-- Close the pending markup with a slot after it. -/
def pushSlot (draft : Draft) (slot : Piece Node) : Draft :=
  { draft with target := draft.target.pushSlot draft.pending slot, pending := "" }

/-- Add a statement: to the block if it is the body of something, else to the template. -/
def pushStatement (draft : Draft) (nested : Bool) (statement : Piece Node) : Draft :=
  if nested then { draft with target := draft.target.pushStatement statement }
  else { draft with hoisted := draft.hoisted ++ [statement] }

/-- Add a statement to the template. -/
def hoist (draft : Draft) (statement : Piece Node) : Draft :=
  { draft with hoisted := draft.hoisted ++ [statement] }

/-- Write one attribute of a tag. -/
def writeAttribute (draft : Draft) (a : Attribute) : Draft :=
  let named := draft.write (" " ++ a.name)
  match a.content with
  | .bare => named
  | .static text => ((named.write "=\"").writeText text).write "\""
  | .code source => (named.write "=").pushSlot (.source source)

/-- Show an included file: import it, and show what is imported. -/
def pushInclude (draft : Draft) (path : String) : Draft :=
  let binding := "__include$" ++ toString (draft.includes + 1)
  let line := "import " ++ binding ++ " from " ++ Json.writeText path
  { draft with includes := draft.includes + 1, imports := draft.imports ++ [line] }.pushSlot
    (.source binding)

/-- Write a body into a block of its own, with nothing pending at first, and close the block.  The
draft then is as it was, but for what the body has hoisted and imported. -/
def enclose (draft : Draft) (name : String) (fill : Draft → Except Error Draft) :
    Except Error (Block Node × Draft) := do
  let filled ← fill { draft with pending := "", target := { name } }
  return (filled.target.close filled.pending,
    { filled with pending := draft.pending, target := draft.target })

end Draft

mutual

/-- Compile a node; `nested` if it stands in the body of something. -/
def lower (scope : Scope) (nested : Bool) : Markup.Node → Draft → Except Error Draft
  | .block nodes, draft => lowerAll scope nested nodes draft
  | .doctype value, draft => .ok (draft.writeText ("<!DOCTYPE " ++ value ++ ">"))
  | .text value, draft => .ok (draft.writeText value)
  | .code value true, draft => .ok (draft.pushSlot (.source value))
  | .code value false, draft => .ok (draft.pushStatement nested (.source value))
  | .tag name attributes children selfClosing, draft => do
    let opened := (compileAttributes scope.options attributes).foldl Draft.writeAttribute
      (draft.write ("<" ++ name))
    if selfClosing then return opened.write "/>"
    let filled ← lowerBody scope nested children (opened.write ">")
    return filled.write ("</" ++ name ++ ">")
  | .each _ _ _ none, draft => .ok draft
  | .each object value key (some body), draft => do
    let (block, draft) ← draft.enclose scope.name (lowerAll scope true body)
    return draft.pushSlot (.node (.each object value key block))
  | .conditional test consequent alternate, draft => do
    -- the alternate goes on from the draft that the consequent leaves, and counts its files
    let (block, draft) ← draft.enclose scope.name (lowerAll scope true consequent)
    let (alternate, draft) ← lowerAlternate scope alternate draft
    return draft.pushSlot (.node (.condition test alternate block))
  | .mixin name args body false _, draft => do
    -- what the body defines is hoisted before the definition itself
    let (block, draft) ← draft.enclose name (lowerBody scope true body)
    return draft.hoist (.node (.mixin (.definition args) block))
  | .mixin name _ none true attributes, draft =>
    let role := Role.call (compileAttributes scope.options attributes)
    .ok (draft.pushSlot (.node (.mixin role (Block.empty name))))
  | .mixin name _ (some body) true attributes, draft => do
    let role := Role.call (compileAttributes scope.options attributes)
    let (block, draft) ← draft.enclose name (lowerAll scope true body)
    return draft.pushSlot (.node (.mixin role block))
  | .rawInclude path, draft => .ok (draft.pushInclude path)
  | .unsupported kind, _ => .error (.unhandledNode kind)

/-- Compile nodes one after the other. -/
def lowerAll (scope : Scope) (nested : Bool) : List Markup.Node → Draft → Except Error Draft
  | [], draft => .ok draft
  | node :: nodes, draft => do lowerAll scope nested nodes (← lower scope nested node draft)

/-- Compile a body that may not be there. -/
def lowerBody (scope : Scope) (nested : Bool) :
    Option (List Markup.Node) → Draft → Except Error Draft
  | none, draft => .ok draft
  | some nodes, draft => lowerAll scope nested nodes draft

/-- Compile the branch that may not be there. -/
def lowerAlternate (scope : Scope) :
    Option Markup.Node → Draft → Except Error (Option (Block Node) × Draft)
  | none, draft => .ok (none, draft)
  | some node, draft => do
    let (block, draft) ← draft.enclose scope.name (lower scope true node)
    return (some block, draft)

end

/-- Compile the tree of a template. -/
def compileTree (tree : Markup.Node) (name : String) (options : Options) : Except Error Root := do
  -- nothing at the top is the body of something, so that all statements have been hoisted
  let draft ← lower { name, options } false tree { target := { name } }
  return {
    block := { draft.target.close draft.pending with code := draft.hoisted }
    imports := draft.imports }

end Taglit.Compiled
