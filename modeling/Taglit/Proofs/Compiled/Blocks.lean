import Taglit.Compiled.Render
import Taglit.Proofs.Compiled.Yield

/-!
# The blocks of a compiled template

A compiled template holds blocks at any depth: its own, those of the nodes in slots, the alternates
of conditions, and those of the definitions among its statements.  `Root.blocks` lists them all.

Each of them comes from a *site* of the markup tree: a body that is compiled into a block of its
own.  `blocks_rootOf_perm` says that the blocks are those of the sites, each one once.
-/

namespace Taglit.Compiled

open Taglit.Output (Format Options)
open Taglit.Markup.Node (includedIn visited visitedAll visitedBody visitedAlternate leading
  leadingAll leadingBody)

/-! ## Blocks at any depth -/

mutual

/-- The blocks of a node, at any depth. -/
def Node.blocks : Node → List (Block Node)
  | .block b => b.blocks
  | .each _ _ _ b => b.blocks
  | .condition _ alternate b => b.blocks ++ alternateBlocks alternate
  | .mixin _ b => b.blocks
  | .root _ b => b.blocks

/-- A block, and the blocks inside it at any depth. -/
def Block.blocks : Block Node → List (Block Node)
  | ⟨name, code, quasis, slots⟩ =>
    ⟨name, code, quasis, slots⟩ :: (pieceBlocks slots ++ pieceBlocks code)

/-- The blocks of a branch that may not be there. -/
def alternateBlocks : Option (Block Node) → List (Block Node)
  | none => []
  | some b => b.blocks

/-- The blocks in a list of statements or slots. -/
def pieceBlocks : List (Piece Node) → List (Block Node)
  | [] => []
  | .source _ :: pieces => pieceBlocks pieces
  | .node n :: pieces => n.blocks ++ pieceBlocks pieces

end

/-- The blocks of a template, at any depth. -/
def Root.blocks (root : Root) : List (Block Node) :=
  root.block.blocks

/-- A block comes first, then the blocks in its slots, then those in its statements. -/
theorem Block.blocks_eq (b : Block Node) :
    b.blocks = b :: (pieceBlocks b.slots ++ pieceBlocks b.code) := by
  rw [Block.blocks]

/-- The blocks in two lists of pieces, one after the other. -/
theorem pieceBlocks_append (xs ys : List (Piece Node)) :
    pieceBlocks (xs ++ ys) = pieceBlocks xs ++ pieceBlocks ys := by
  induction xs with
  | nil => simp [pieceBlocks]
  | cons x xs ih => cases x <;> simp [pieceBlocks, ih]

/-- Sources hold no blocks. -/
theorem pieceBlocks_map_source (texts : List String) :
    pieceBlocks (texts.map Piece.source) = [] := by
  induction texts with
  | nil => rfl
  | cons text texts ih => exact ih

/-! ## Sites of a markup tree -/

/-- A body that is compiled into a block of its own, with the name of the block and the number of
files that were included before it. -/
structure Site where
  name : String
  seen : Nat
  nodes : List Markup.Node

/-- The block of a site. -/
def Site.block (scope : Scope) (site : Site) : Block Node :=
  enclosed site.name (leadingAll site.nodes) (marksAll scope site.seen site.nodes)

mutual

/-- The sites in a node, at any depth, in document order. -/
def sites (scope : Scope) (seen : Nat) : Markup.Node → List Site
  | .block nodes => sitesAll scope seen nodes
  | .tag _ _ children selfClosing => if selfClosing then [] else sitesBody scope seen children
  | .each _ _ _ none => []
  | .each _ _ _ (some body) => ⟨scope.name, seen, body⟩ :: sitesAll scope seen body
  | .conditional _ consequent alternate =>
    ⟨scope.name, seen, consequent⟩ :: (sitesAll scope seen consequent ++
      sitesAlternate scope (seen + (includedIn (visitedAll consequent)).length) alternate)
  | .mixin name _ body _ _ => ⟨name, seen, body.getD []⟩ :: sitesBody scope seen body
  | _ => []

/-- The sites in a list of nodes. -/
def sitesAll (scope : Scope) (seen : Nat) : List Markup.Node → List Site
  | [] => []
  | node :: nodes =>
    sites scope seen node ++ sitesAll scope (seen + (includedIn (visited node)).length) nodes

/-- The sites in a body that may not be there. -/
def sitesBody (scope : Scope) (seen : Nat) : Option (List Markup.Node) → List Site
  | none => []
  | some nodes => sitesAll scope seen nodes

/-- The sites of a branch that may not be there. -/
def sitesAlternate (scope : Scope) (seen : Nat) : Option Markup.Node → List Site
  | none => []
  | some node => ⟨scope.name, seen, [node]⟩ :: sites scope seen node

end

mutual

/-- The nodes visited in a site are visited in the tree. -/
theorem visited_of_mem_sites (scope : Scope) (seen : Nat) (node : Markup.Node) :
    ∀ site ∈ sites scope seen node, ∀ n ∈ visitedAll site.nodes, n ∈ visited node := by
  match node with
  | .block nodes =>
      intro site hsite n hn
      exact List.mem_cons_of_mem _ (visited_of_mem_sitesAll scope seen nodes site hsite n hn)
  | .tag name attributes children true => simp [sites]
  | .tag name attributes children false =>
      intro site hsite n hn
      exact List.mem_cons_of_mem _ (visited_of_mem_sitesBody scope seen children site hsite n hn)
  | .each _ _ _ none => simp [sites]
  | .each _ _ _ (some body) =>
      intro site hsite n hn
      rw [sites, List.mem_cons] at hsite
      rcases hsite with rfl | hsite
      · exact List.mem_cons_of_mem _ hn
      · exact List.mem_cons_of_mem _ (visited_of_mem_sitesAll scope seen body site hsite n hn)
  | .conditional _ consequent alternate =>
      intro site hsite n hn
      rw [sites, List.mem_cons, List.mem_append] at hsite
      rw [visited, List.mem_cons, List.mem_append]
      rcases hsite with rfl | hsite | hsite
      · exact .inr (.inl hn)
      · exact .inr (.inl (visited_of_mem_sitesAll scope seen consequent site hsite n hn))
      · exact .inr (.inr (visited_of_mem_sitesAlternate scope _ alternate site hsite n hn))
  | .mixin _ _ body _ _ =>
      intro site hsite n hn
      rw [sites, List.mem_cons] at hsite
      rcases hsite with rfl | hsite
      · cases body with
        | none => simp [visitedAll] at hn
        | some nodes => exact List.mem_cons_of_mem _ hn
      · exact List.mem_cons_of_mem _ (visited_of_mem_sitesBody scope seen body site hsite n hn)
  | .code _ _ => simp [sites]
  | .doctype _ => simp [sites]
  | .text _ => simp [sites]
  | .rawInclude _ => simp [sites]
  | .unsupported _ => simp [sites]

/-- The same for a list of nodes. -/
theorem visited_of_mem_sitesAll (scope : Scope) (seen : Nat) (nodes : List Markup.Node) :
    ∀ site ∈ sitesAll scope seen nodes, ∀ n ∈ visitedAll site.nodes, n ∈ visitedAll nodes := by
  match nodes with
  | [] => simp [sitesAll]
  | node :: nodes =>
      intro site hsite n hn
      rw [sitesAll, List.mem_append] at hsite
      rw [visitedAll, List.mem_append]
      exact hsite.imp (visited_of_mem_sites scope seen node site · n hn)
        (visited_of_mem_sitesAll scope _ nodes site · n hn)

/-- The same for a body that may not be there. -/
theorem visited_of_mem_sitesBody (scope : Scope) (seen : Nat) (body : Option (List Markup.Node)) :
    ∀ site ∈ sitesBody scope seen body, ∀ n ∈ visitedAll site.nodes, n ∈ visitedBody body := by
  match body with
  | none => simp [sitesBody]
  | some nodes => exact visited_of_mem_sitesAll scope seen nodes

/-- The same for a branch that may not be there. -/
theorem visited_of_mem_sitesAlternate (scope : Scope) (seen : Nat)
    (alternate : Option Markup.Node) :
    ∀ site ∈ sitesAlternate scope seen alternate, ∀ n ∈ visitedAll site.nodes,
      n ∈ visitedAlternate alternate := by
  match alternate with
  | none => simp [sitesAlternate]
  | some node =>
      intro site hsite n hn
      rw [sitesAlternate, List.mem_cons] at hsite
      rcases hsite with rfl | hsite
      · simpa [visitedAll, visitedAlternate] using hn
      · exact visited_of_mem_sites scope seen node site hsite n hn

end

/-- The blocks in the statements and slots of an enclosed body are those in the slots. -/
theorem blocks_enclosed (name : String) (statements : List String) (marks : List Mark) :
    (enclosed name statements marks).blocks =
      enclosed name statements marks :: pieceBlocks (slotsIn marks) := by
  rw [Block.blocks_eq]
  simp [enclosed, pieceBlocks_map_source]

/-- The slots that attributes leave in a tag hold sources alone. -/
theorem slotsIn_attributes (attributes : List Attribute) :
    ∃ texts : List String,
      slotsIn (attributes.flatMap Attribute.marks) = texts.map Piece.source := by
  induction attributes with
  | nil => exact ⟨[], rfl⟩
  | cons a attributes ih =>
      obtain ⟨texts, htexts⟩ := ih
      obtain ⟨name, content⟩ := a
      rw [List.flatMap_cons, slotsIn_append, htexts]
      cases content with
      | bare => exact ⟨texts, rfl⟩
      | static text => exact ⟨texts, rfl⟩
      | code source => exact ⟨source :: texts, rfl⟩

/-- The attributes of a tag hold no blocks. -/
theorem pieceBlocks_attributes (attributes : List Attribute) :
    pieceBlocks (slotsIn (attributes.flatMap Attribute.marks)) = [] := by
  obtain ⟨texts, htexts⟩ := slotsIn_attributes attributes
  rw [htexts, pieceBlocks_map_source]

/-- The block of a body that may not be there. -/
theorem Site.block_body (scope : Scope) (name : String) (seen : Nat)
    (body : Option (List Markup.Node)) :
    Site.block scope ⟨name, seen, body.getD []⟩ =
      enclosed name (leadingBody body) (marksBody scope seen body) := by
  cases body <;> rfl

/-- The block of a branch that is one node. -/
theorem Site.block_singleton (scope : Scope) (name : String) (seen : Nat) (node : Markup.Node) :
    Site.block scope ⟨name, seen, [node]⟩ =
      enclosed name (leading node) (marks scope seen node) := by
  simp [Site.block, leadingAll, marksAll]

/-- Two lists in two parts each, with the first parts put before the second ones. -/
theorem perm_append_append {α : Type} {xs ys as bs cs ds : List α} (hx : xs.Perm (as ++ bs))
    (hy : ys.Perm (cs ++ ds)) : (xs ++ ys).Perm (as ++ cs ++ (bs ++ ds)) := by
  refine (hx.append hy).trans ?_
  rw [List.append_assoc, List.append_assoc]
  exact (List.perm_append_comm_assoc bs cs ds).append_left as

mutual

/-- The blocks that the yield of a node holds, in its slots and in what it hoists, are those of the
sites in the node. -/
theorem sites_perm (scope : Scope) (nested : Bool) (seen : Nat) (node : Markup.Node) :
    ((sites scope seen node).map (Site.block scope)).Perm
      (pieceBlocks (slotsIn (marks scope seen node)) ++
        pieceBlocks (hoisted scope nested seen node)) := by
  match node with
  | .block nodes => exact sitesAll_perm scope nested seen nodes
  | .doctype value => exact .refl _
  | .text value => exact .refl _
  | .code value true => exact .refl _
  | .code value false => cases nested <;> exact .refl _
  | .tag name attributes children true =>
      simp [sites, marks, hoisted, slotsIn, slotsIn_append, pieceBlocks_attributes, pieceBlocks]
  | .tag name attributes children false =>
      have ih := sitesBody_perm scope nested seen children
      simpa [sites, marks, hoisted, slotsIn, slotsIn_append, pieceBlocks_append,
        pieceBlocks_attributes, pieceBlocks] using ih
  | .each _ _ _ none => exact .refl _
  | .each object value key (some body) =>
      -- the block of the body stands in a slot, and its own site comes first as well
      have ih := sitesAll_perm scope true seen body
      simp only [sites, marks, hoisted, hoistedBody, slotsIn, pieceBlocks, Node.blocks,
        blocks_enclosed, List.map_cons, List.append_nil, List.cons_append]
      exact ih.cons _
  | .conditional test consequent alternate =>
      -- the slot has the blocks of both branches before what either of them hoists
      have ihc := sitesAll_perm scope true seen consequent
      have iha :=
        sitesAlternate_perm scope (seen + (includedIn (visitedAll consequent)).length) alternate
      simp only [sites, marks, hoisted, slotsIn, pieceBlocks, Node.blocks, blocks_enclosed,
        List.map_cons, List.map_append, List.append_nil, List.cons_append, pieceBlocks_append]
      exact (perm_append_append ihc iha).cons _
  | .mixin name args body false attributes =>
      have ih := sitesBody_perm scope true seen body
      simp only [sites, marks, hoisted, slotsIn, pieceBlocks, Node.blocks, blocks_enclosed,
        List.map_cons, List.append_nil, List.nil_append, pieceBlocks_append, Site.block_body]
      -- the definition comes after what its body hoists, but its site comes first
      exact (ih.trans List.perm_append_comm).cons _ |>.trans List.perm_middle.symm
  | .mixin name args body true attributes =>
      have ih := sitesBody_perm scope true seen body
      simp only [sites, marks, hoisted, slotsIn, pieceBlocks, Node.blocks, blocks_enclosed,
        List.map_cons, List.append_nil, List.cons_append, Site.block_body]
      exact ih.cons _
  | .rawInclude path => exact .refl _
  | .unsupported kind => exact .refl _

/-- The same for a list of nodes. -/
theorem sitesAll_perm (scope : Scope) (nested : Bool) (seen : Nat) (nodes : List Markup.Node) :
    ((sitesAll scope seen nodes).map (Site.block scope)).Perm
      (pieceBlocks (slotsIn (marksAll scope seen nodes)) ++
        pieceBlocks (hoistedAll scope nested seen nodes)) := by
  match nodes with
  | [] => exact .refl _
  | node :: nodes =>
      have ih := sites_perm scope nested seen node
      have ihs := sitesAll_perm scope nested (seen + (includedIn (visited node)).length) nodes
      simp only [sitesAll, marksAll, hoistedAll, slotsIn_append, pieceBlocks_append,
        List.map_append]
      exact perm_append_append ih ihs

/-- The same for a body that may not be there. -/
theorem sitesBody_perm (scope : Scope) (nested : Bool) (seen : Nat)
    (body : Option (List Markup.Node)) :
    ((sitesBody scope seen body).map (Site.block scope)).Perm
      (pieceBlocks (slotsIn (marksBody scope seen body)) ++
        pieceBlocks (hoistedBody scope nested seen body)) := by
  match body with
  | none => exact .refl _
  | some nodes => exact sitesAll_perm scope nested seen nodes

/-- The same for a branch that may not be there. -/
theorem sitesAlternate_perm (scope : Scope) (seen : Nat) (alternate : Option Markup.Node) :
    ((sitesAlternate scope seen alternate).map (Site.block scope)).Perm
      (alternateBlocks (alternateBlock scope seen alternate) ++
        pieceBlocks (hoistedAlternate scope seen alternate)) := by
  match alternate with
  | none => exact .refl _
  | some node =>
      have ih := sites_perm scope true seen node
      simp only [sitesAlternate, alternateBlock, hoistedAlternate, alternateBlocks, blocks_enclosed,
        List.map_cons, List.cons_append, Site.block_singleton]
      exact ih.cons _

end

/-- The blocks of a template are its own and those of the sites in the tree, each one once. -/
theorem blocks_rootOf_perm (tree : Markup.Node) (name : String) (options : Options) :
    (rootOf tree name options).blocks.Perm ((rootOf tree name options).block ::
      (sites { name, options } 0 tree).map (Site.block { name, options })) := by
  rw [Root.blocks, Block.blocks_eq]
  exact ((sites_perm { name, options } false 0 tree).symm).cons _

end Taglit.Compiled
