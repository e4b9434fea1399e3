import Taglit.Proofs.Compiled.Blocks
import Taglit.Proofs.Markup.Standing
import Mathlib.Data.List.Forall2

/-!
# Where statements go

Every body is compiled into a block of its own, and the statements that stand in the body are the
code of that block.  The statements around which there is no body, and the definitions of mixins
wherever they stand, are the code of the template itself.

`Scoped body b` says that `b` is a block with the code of `body`, and that what is shown in its
slots belongs to the constructs that stand in `body`, at any depth.  `statements_scoped` says that a
compiled template is scoped in this way, and that no statement is lost, written twice or put
anywhere else.
-/

namespace Taglit.Compiled

open Taglit.Output (Options)
open Taglit.Markup.Node
  (includedIn visited visitedAll visitedBody visitedAlternate leading leadingAll
  leadingBody statement? enclosesBody standing standingAll standingBody postorder postorderAll
  postorderBody postorderAlternate)

/-! ## Sources and nodes among pieces -/

/-- The text of a source. -/
def Piece.source? : Piece Node → Option String
  | .source text => some text
  | .node _ => none

/-- The node of a piece that is one. -/
def Piece.node? : Piece Node → Option Node
  | .source _ => none
  | .node n => some n

/-- The texts of the sources among pieces. -/
def sourcesIn (pieces : List (Piece Node)) : List String :=
  pieces.filterMap Piece.source?

/-- The nodes among pieces. -/
def nodesIn (pieces : List (Piece Node)) : List Node :=
  pieces.filterMap Piece.node?

/-- The nodes among pieces are the pieces that are nodes. -/
theorem mem_nodesIn {n : Node} {pieces : List (Piece Node)} :
    n ∈ nodesIn pieces ↔ .node n ∈ pieces := by
  rw [nodesIn, List.mem_filterMap]
  constructor
  · rintro ⟨piece, hmem, hnode⟩
    cases piece with
    | source text => cases hnode
    | node m =>
        obtain rfl : m = n := Option.some.inj hnode
        exact hmem
  · intro h
    exact ⟨_, h, rfl⟩

/-- The nodes among the pieces of two lists. -/
theorem nodesIn_append (xs ys : List (Piece Node)) :
    nodesIn (xs ++ ys) = nodesIn xs ++ nodesIn ys :=
  List.filterMap_append

/-- The sources among the pieces of two lists. -/
theorem sourcesIn_append (xs ys : List (Piece Node)) :
    sourcesIn (xs ++ ys) = sourcesIn xs ++ sourcesIn ys :=
  List.filterMap_append

/-- Where all pieces are sources, their texts are all there is. -/
theorem sourcesIn_map_source (texts : List String) :
    sourcesIn (texts.map Piece.source) = texts := by
  induction texts with
  | nil => rfl
  | cons text texts ih => exact congrArg (text :: ·) ih

/-- Where all pieces are sources, there is no node among them. -/
theorem nodesIn_map_source (texts : List String) : nodesIn (texts.map Piece.source) = [] := by
  induction texts with
  | nil => rfl
  | cons text texts ih => exact ih

/-- Attributes leave no node in a slot. -/
theorem nodesIn_attributes (attributes : List Attribute) :
    nodesIn (slotsIn (attributes.flatMap Attribute.marks)) = [] := by
  obtain ⟨texts, htexts⟩ := slotsIn_attributes attributes
  rw [htexts, nodesIn_map_source]

/-! ## Blocks that are scoped like bodies -/

mutual

/-- A block has the statements of a body as its code, and its slots show what stands in the body. -/
inductive Scoped : List Markup.Node → Block Node → Prop where
  | intro {body : List Markup.Node} {b : Block Node} :
      b.code = ((standingAll body).filterMap statement?).map Piece.source →
      List.Forall₂ Shows ((standingAll body).filter enclosesBody) (nodesIn b.slots) →
      Scoped body b

/-- A compiled node shows a construct, each body of it in a block of its own. -/
inductive Shows : Markup.Node → Node → Prop where
  | each {object value : String} {key : Option String} {body : List Markup.Node} {b : Block Node} :
      Scoped body b → Shows (.each object value key (some body)) (.each object value key b)
  | branch {test : String} {consequent : List Markup.Node} {b : Block Node} :
      Scoped consequent b → Shows (.conditional test consequent none) (.condition test none b)
  | branches {test : String} {consequent : List Markup.Node} {alternate : Markup.Node}
      {b c : Block Node} :
      Scoped consequent b → Scoped [alternate] c →
      Shows (.conditional test consequent (some alternate)) (.condition test (some c) b)
  | call {name : String} {args : Option String} {body : Option (List Markup.Node)}
      {attributes : List Markup.Attribute} {compiled : List Attribute} {b : Block Node} :
      b.name = name → Scoped (body.getD []) b →
      Shows (.mixin name args body true attributes) (.mixin (.call compiled) b)

end

/-- A statement of the template stands for a statement, or for the definition of a mixin with the
body in a block of its own. -/
inductive Hoists : Markup.Node → Piece Node → Prop where
  | statement {value : String} : Hoists (.code value false) (.source value)
  | definition {name : String} {args : Option String} {body : Option (List Markup.Node)}
      {attributes : List Markup.Attribute} {b : Block Node} :
      b.name = name → Scoped (body.getD []) b →
      Hoists (.mixin name args body false attributes) (.node (.mixin (.definition args) b))

/-- What is hoisted of the nodes that are left: statements without a body around them, and
definitions of mixins. -/
def hoistedNode? : Bool × Markup.Node → Option Markup.Node
  | (nested, .code value false) => if nested then none else some (.code value false)
  | (_, .mixin name args body false attributes) => some (.mixin name args body false attributes)
  | _ => none

/-- Whether a node may stand in a slot: an iteration, a branching, or the use of a mixin. -/
def Node.isShown : Node → Bool
  | .each .. => true
  | .condition .. => true
  | .mixin (.call _) _ => true
  | .mixin (.definition _) _ => false
  | .block _ => false
  | .root .. => false

/-- What shows a construct may stand in a slot. -/
theorem Shows.isShown {node : Markup.Node} {n : Node} (h : Shows node n) : n.isShown = true := by
  cases h <;> rfl

/-! ## The blocks of bodies -/

/-- The block of a body is scoped if its slots show what stands in the body. -/
theorem scoped_enclosed (name : String) {body : List Markup.Node} {marks : List Mark}
    (hmarks : List.Forall₂ Shows ((standingAll body).filter enclosesBody)
      (nodesIn (slotsIn marks))) :
    Scoped body (enclosed name (leadingAll body) marks) := by
  refine .intro ?_ hmarks
  rw [enclosed, Markup.Node.leadingAll_eq]

/-- The same for an alternate, which is a body of one node. -/
theorem scoped_alternate (name : String) {node : Markup.Node} {marks : List Mark}
    (hmarks : List.Forall₂ Shows ((standing node).filter enclosesBody) (nodesIn (slotsIn marks))) :
    Scoped [node] (enclosed name (leading node) marks) := by
  have hstanding : standingAll [node] = standing node := by simp [standingAll]
  have hleading : leadingAll [node] = leading node := by simp [leadingAll]
  rw [← hleading]
  refine scoped_enclosed name ?_
  rwa [hstanding]

/-- The nodes in the slots of a tag are those in the slots of its children. -/
theorem nodesIn_tag (scope : Scope) (seen : Nat) (name : String)
    (attributes : List Markup.Attribute) (children : Option (List Markup.Node)) :
    nodesIn (slotsIn (marks scope seen (.tag name attributes children false))) =
      nodesIn (slotsIn (marksBody scope seen children)) := by
  have hclose : slotsIn [.markup ("</" ++ name ++ ">")] = [] := rfl
  rw [marks, slotsIn, slotsIn_append, nodesIn_append, nodesIn_attributes, List.nil_append,
    if_neg Bool.false_ne_true, slotsIn, slotsIn_append, hclose, List.append_nil]
  · simp
  · simp

/-- A self-closing tag leaves none. -/
theorem nodesIn_selfClosing (scope : Scope) (seen : Nat) (name : String)
    (attributes : List Markup.Attribute) (children : Option (List Markup.Node)) :
    nodesIn (slotsIn (marks scope seen (.tag name attributes children true))) = [] := by
  rw [marks, slotsIn, slotsIn_append, nodesIn_append, nodesIn_attributes]
  · rfl
  · simp

mutual

/-- The slots among the marks of a node show what stands there. -/
theorem shows_marks (scope : Scope) (seen : Nat) (node : Markup.Node) :
    List.Forall₂ Shows ((standing node).filter enclosesBody)
      (nodesIn (slotsIn (marks scope seen node))) := by
  match node with
  | .block nodes => exact shows_marksAll scope seen nodes
  | .tag name attributes children true =>
      rw [nodesIn_selfClosing]
      exact .nil
  | .tag name attributes children false =>
      rw [nodesIn_tag]
      exact shows_marksBody scope seen children
  | .each _ _ _ none => exact .nil
  | .each _ _ _ (some body) =>
      exact .cons (.each (scoped_enclosed _ (shows_marksAll scope seen body))) .nil
  | .conditional _ consequent none =>
      exact .cons (.branch (scoped_enclosed _ (shows_marksAll scope seen consequent))) .nil
  | .conditional _ consequent (some alternate) =>
      have hc := scoped_enclosed scope.name (shows_marksAll scope seen consequent)
      have ha := scoped_alternate scope.name
        (shows_marks scope (seen + (includedIn (visitedAll consequent)).length) alternate)
      exact .cons (.branches hc ha) .nil
  | .mixin _ _ _ false _ => exact .nil
  | .mixin name _ none true _ => exact .cons (.call rfl (scoped_enclosed name .nil)) .nil
  | .mixin name _ (some body) true _ =>
      exact .cons (.call rfl (scoped_enclosed name (shows_marksAll scope seen body))) .nil
  | .code _ true => exact .nil
  | .code _ false => exact .nil
  | .doctype _ => exact .nil
  | .text _ => exact .nil
  | .rawInclude _ => exact .nil
  | .unsupported _ => exact .nil

/-- The same for a list of nodes. -/
theorem shows_marksAll (scope : Scope) (seen : Nat) (nodes : List Markup.Node) :
    List.Forall₂ Shows ((standingAll nodes).filter enclosesBody)
      (nodesIn (slotsIn (marksAll scope seen nodes))) := by
  match nodes with
  | [] => exact .nil
  | node :: nodes =>
      rw [standingAll, marksAll, List.filter_append, slotsIn_append, nodesIn_append]
      exact List.rel_append (shows_marks scope seen node) (shows_marksAll scope _ nodes)

/-- The same for a body that may not be there. -/
theorem shows_marksBody (scope : Scope) (seen : Nat) (body : Option (List Markup.Node)) :
    List.Forall₂ Shows ((standingBody body).filter enclosesBody)
      (nodesIn (slotsIn (marksBody scope seen body))) := by
  match body with
  | none => exact .nil
  | some nodes => exact shows_marksAll scope seen nodes

end

/-- The block of a site is scoped like the body of the site. -/
theorem scoped_site (scope : Scope) (site : Site) : Scoped site.nodes (site.block scope) :=
  scoped_enclosed site.name (shows_marksAll scope site.seen site.nodes)

/-! ## The statements of the template -/

/-- A node that is not hoisted changes nothing when it is left last. -/
theorem filterMap_hoistedNode?_concat {entries : List (Bool × Markup.Node)}
    {entry : Bool × Markup.Node} (h : hoistedNode? entry = none) :
    (entries ++ [entry]).filterMap hoistedNode? = entries.filterMap hoistedNode? := by
  rw [List.filterMap_append, List.filterMap_cons_none h, List.filterMap_nil, List.append_nil]

mutual

/-- What a node hoists stands for the statements and definitions in it, in the order in which they
are left. -/
theorem hoists_hoisted (scope : Scope) (nested : Bool) (seen : Nat) (node : Markup.Node) :
    List.Forall₂ Hoists ((postorder nested node).filterMap hoistedNode?)
      (hoisted scope nested seen node) := by
  match node with
  | .block nodes =>
      rw [postorder, filterMap_hoistedNode?_concat rfl]
      exact hoists_hoistedAll scope nested seen nodes
  | .code _ true => exact .nil
  | .code _ false =>
      cases nested with
      | true => exact .nil
      | false => exact .cons .statement .nil
  | .tag _ _ _ true => exact .nil
  | .tag _ _ children false =>
      rw [postorder, filterMap_hoistedNode?_concat rfl]
      exact hoists_hoistedBody scope nested seen children
  | .each _ _ _ body =>
      rw [postorder, filterMap_hoistedNode?_concat rfl]
      exact hoists_hoistedBody scope true seen body
  | .conditional _ consequent alternate =>
      rw [postorder, filterMap_hoistedNode?_concat rfl, List.filterMap_append, hoisted]
      exact List.rel_append (hoists_hoistedAll scope true seen consequent)
        (hoists_hoistedAlternate scope _ alternate)
  | .mixin name args body false attributes =>
      -- the definition comes last on both sides: its body has been left then
      rw [postorder, List.filterMap_append, hoisted, ← Site.block_body]
      exact List.rel_append (hoists_hoistedBody scope true seen body)
        (.cons (.definition rfl (scoped_site scope ⟨name, seen, body.getD []⟩)) .nil)
  | .mixin _ _ body true _ =>
      rw [postorder, filterMap_hoistedNode?_concat rfl]
      exact hoists_hoistedBody scope true seen body
  | .doctype _ => exact .nil
  | .text _ => exact .nil
  | .rawInclude _ => exact .nil
  | .unsupported _ => exact .nil

/-- The same for a list of nodes. -/
theorem hoists_hoistedAll (scope : Scope) (nested : Bool) (seen : Nat) (nodes : List Markup.Node) :
    List.Forall₂ Hoists ((postorderAll nested nodes).filterMap hoistedNode?)
      (hoistedAll scope nested seen nodes) := by
  match nodes with
  | [] => exact .nil
  | node :: nodes =>
      rw [postorderAll, hoistedAll, List.filterMap_append]
      exact List.rel_append (hoists_hoisted scope nested seen node)
        (hoists_hoistedAll scope nested _ nodes)

/-- The same for a body that may not be there. -/
theorem hoists_hoistedBody (scope : Scope) (nested : Bool) (seen : Nat)
    (body : Option (List Markup.Node)) :
    List.Forall₂ Hoists ((postorderBody nested body).filterMap hoistedNode?)
      (hoistedBody scope nested seen body) := by
  match body with
  | none => exact .nil
  | some nodes => exact hoists_hoistedAll scope nested seen nodes

/-- The same for a branch that may not be there. -/
theorem hoists_hoistedAlternate (scope : Scope) (seen : Nat) (alternate : Option Markup.Node) :
    List.Forall₂ Hoists ((postorderAlternate alternate).filterMap hoistedNode?)
      (hoistedAlternate scope seen alternate) := by
  match alternate with
  | none => exact .nil
  | some node => exact hoists_hoisted scope true seen node

end

/-! ## No statement is lost -/

mutual

/-- The statements that a node hoists are those around which there is no body. -/
theorem sourcesIn_hoisted (scope : Scope) (nested : Bool) (seen : Nat) (node : Markup.Node) :
    sourcesIn (hoisted scope nested seen node) = if nested then [] else leading node := by
  match node with
  | .block nodes => exact sourcesIn_hoistedAll scope nested seen nodes
  | .code _ true => cases nested <;> rfl
  | .code _ false => cases nested <;> rfl
  | .tag _ _ _ true => cases nested <;> rfl
  | .tag _ _ children false => exact sourcesIn_hoistedBody scope nested seen children
  | .each _ _ _ body =>
      have ih := sourcesIn_hoistedBody scope true seen body
      cases nested <;> exact ih
  | .conditional _ consequent alternate =>
      -- both branches are bodies, so whatever stands around them they hoist no statement
      have ihc := sourcesIn_hoistedAll scope true seen consequent
      have iha := sourcesIn_hoistedAlternate scope
        (seen + (includedIn (visitedAll consequent)).length) alternate
      rw [hoisted, sourcesIn_append, ihc, iha]
      cases nested <;> rfl
  | .mixin _ _ body false _ =>
      have ih := sourcesIn_hoistedBody scope true seen body
      rw [hoisted, sourcesIn_append, ih]
      cases nested <;> rfl
  | .mixin _ _ body true _ =>
      have ih := sourcesIn_hoistedBody scope true seen body
      cases nested <;> exact ih
  | .doctype _ => cases nested <;> rfl
  | .text _ => cases nested <;> rfl
  | .rawInclude _ => cases nested <;> rfl
  | .unsupported _ => cases nested <;> rfl

/-- The same for a list of nodes. -/
theorem sourcesIn_hoistedAll (scope : Scope) (nested : Bool) (seen : Nat)
    (nodes : List Markup.Node) :
    sourcesIn (hoistedAll scope nested seen nodes) = if nested then [] else leadingAll nodes := by
  match nodes with
  | [] => cases nested <;> rfl
  | node :: nodes =>
      rw [hoistedAll, sourcesIn_append, sourcesIn_hoisted scope nested seen node,
        sourcesIn_hoistedAll scope nested _ nodes]
      cases nested <;> rfl

/-- The same for a body that may not be there. -/
theorem sourcesIn_hoistedBody (scope : Scope) (nested : Bool) (seen : Nat)
    (body : Option (List Markup.Node)) :
    sourcesIn (hoistedBody scope nested seen body) = if nested then [] else leadingBody body := by
  match body with
  | none => cases nested <;> rfl
  | some nodes => exact sourcesIn_hoistedAll scope nested seen nodes

/-- An alternate hoists no statement, being a body itself. -/
theorem sourcesIn_hoistedAlternate (scope : Scope) (seen : Nat) (alternate : Option Markup.Node) :
    sourcesIn (hoistedAlternate scope seen alternate) = [] := by
  match alternate with
  | none => rfl
  | some node => exact sourcesIn_hoisted scope true seen node

end

/-- The statements of a site. -/
def Site.statements (site : Site) : List String :=
  leadingAll site.nodes

mutual

/-- The visited statements are those that stand where the node stands, and those of the sites in
it. -/
theorem statements_perm (scope : Scope) (seen : Nat) (node : Markup.Node) :
    ((visited node).filterMap statement?).Perm
      (leading node ++ (sites scope seen node).flatMap Site.statements) := by
  match node with
  | .block nodes => exact statementsAll_perm scope seen nodes
  | .code _ true => exact .refl _
  | .code _ false => exact .refl _
  | .tag _ _ _ true => exact .refl _
  | .tag _ _ children false => exact statementsBody_perm scope seen children
  | .each _ _ _ none => exact .refl _
  | .each _ _ _ (some body) => exact statementsAll_perm scope seen body
  | .conditional _ consequent alternate =>
      -- the sites of the alternate come after those of the consequent, as its statements do
      have hboth := (statementsAll_perm scope seen consequent).append
        (statementsAlternate_perm scope
          (seen + (includedIn (visitedAll consequent)).length) alternate)
      rw [List.append_assoc] at hboth
      rw [visited, List.filterMap_cons_none rfl, List.filterMap_append, sites, List.flatMap_cons,
        List.flatMap_append]
      exact hboth
  | .mixin _ _ none _ _ => exact .refl _
  | .mixin _ _ (some body) _ _ => exact statementsAll_perm scope seen body
  | .doctype _ => exact .refl _
  | .text _ => exact .refl _
  | .rawInclude _ => exact .refl _
  | .unsupported _ => exact .refl _

/-- The same for a list of nodes. -/
theorem statementsAll_perm (scope : Scope) (seen : Nat) (nodes : List Markup.Node) :
    ((visitedAll nodes).filterMap statement?).Perm
      (leadingAll nodes ++ (sitesAll scope seen nodes).flatMap Site.statements) := by
  match nodes with
  | [] => exact .refl _
  | node :: nodes =>
      rw [visitedAll, List.filterMap_append, leadingAll, sitesAll, List.flatMap_append]
      exact perm_append_append (statements_perm scope seen node) (statementsAll_perm scope _ nodes)

/-- The same for a body that may not be there. -/
theorem statementsBody_perm (scope : Scope) (seen : Nat) (body : Option (List Markup.Node)) :
    ((visitedBody body).filterMap statement?).Perm
      (leadingBody body ++ (sitesBody scope seen body).flatMap Site.statements) := by
  match body with
  | none => exact .refl _
  | some nodes => exact statementsAll_perm scope seen nodes

/-- The same for an alternate, whose statements are all those of sites. -/
theorem statementsAlternate_perm (scope : Scope) (seen : Nat) (alternate : Option Markup.Node) :
    ((visitedAlternate alternate).filterMap statement?).Perm
      ((sitesAlternate scope seen alternate).flatMap Site.statements) := by
  match alternate with
  | none => exact .refl _
  | some node =>
      have hstatements : Site.statements ⟨scope.name, seen, [node]⟩ = leading node := by
        simp [Site.statements, leadingAll]
      rw [sitesAlternate, List.flatMap_cons, hstatements]
      exact statements_perm scope seen node

end

/-- The code of the block of a site is the statements of the site. -/
theorem sourcesIn_code_site (scope : Scope) (site : Site) :
    sourcesIn (site.block scope).code = site.statements :=
  sourcesIn_map_source _

/-- The code of all blocks of a template has the visited statements, each one once. -/
theorem sourcesIn_code_perm (tree : Markup.Node) (name : String) (options : Options) :
    ((rootOf tree name options).blocks.flatMap fun b => sourcesIn b.code).Perm
      ((visited tree).filterMap statement?) := by
  have hroot : sourcesIn (rootOf tree name options).block.code = leading tree :=
    sourcesIn_hoisted _ false 0 tree
  refine ((blocks_rootOf_perm tree name options).flatMap_right _).trans ?_
  rw [List.flatMap_cons, hroot, List.flatMap_map]
  simp only [sourcesIn_code_site]
  exact (statements_perm { name, options } 0 tree).symm

/-! ## Compiled templates -/

/-- A body whose block is scoped has no node among the code of the block. -/
theorem Scoped.node_not_mem_code {body : List Markup.Node} {b : Block Node} (h : Scoped body b)
    (n : Node) : Piece.node n ∉ b.code := by
  obtain ⟨hcode, -⟩ := h
  rw [hcode]
  simp

/-- Of two lists related one by one, every member of the second has one in the first. -/
theorem exists_of_mem_right {α β : Type} {R : α → β → Prop} {xs : List α} {ys : List β}
    (h : List.Forall₂ R xs ys) {y : β} (hy : y ∈ ys) : ∃ x ∈ xs, R x y := by
  induction h with
  | nil => cases hy
  | cons hr _ ih =>
      rcases List.mem_cons.mp hy with rfl | hy
      · exact ⟨_, List.mem_cons_self, hr⟩
      · obtain ⟨x, hx, hxy⟩ := ih hy
        exact ⟨x, List.mem_cons_of_mem _ hx, hxy⟩

/-- What is shown in slots may stand in slots. -/
theorem isShown_of_mem_slots {nodes : List Markup.Node} {slots : List (Piece Node)}
    (h : List.Forall₂ Shows nodes (nodesIn slots)) {n : Node} (hn : .node n ∈ slots) :
    n.isShown = true := by
  obtain ⟨node, -, hshows⟩ := exists_of_mem_right h (mem_nodesIn.mpr hn)
  exact hshows.isShown

/-- A node among the statements of the template is the definition of a mixin. -/
theorem definition_of_mem_code {nodes : List Markup.Node} {code : List (Piece Node)}
    (h : List.Forall₂ Hoists nodes code) {n : Node} (hn : .node n ∈ code) :
    ∃ args b, n = .mixin (.definition args) b := by
  obtain ⟨node, -, hhoists⟩ := exists_of_mem_right h hn
  cases hhoists with
  | definition => exact ⟨_, _, rfl⟩

/-- The first of the blocks is that of the template. -/
theorem blocks_eq_cons_tail (root : Root) : root.blocks = root.block :: root.blocks.tail := by
  rw [Root.blocks, Block.blocks_eq, List.tail_cons]

/-- The blocks inside the template are those of the sites in the tree. -/
theorem tail_blocks_perm (tree : Markup.Node) (name : String) (options : Options) :
    ((sites { name, options } 0 tree).map (Site.block { name, options })).Perm
      (rootOf tree name options).blocks.tail := by
  have hperm := blocks_rootOf_perm tree name options
  rw [blocks_eq_cons_tail] at hperm
  exact hperm.cons_inv.symm

/-- Every block inside the template is that of a body. -/
theorem scoped_of_mem_tail {tree : Markup.Node} {name : String} {options : Options} {b : Block Node}
    (hb : b ∈ (rootOf tree name options).blocks.tail) : ∃ body, Scoped body b := by
  rw [← (tail_blocks_perm tree name options).mem_iff] at hb
  obtain ⟨site, -, rfl⟩ := List.mem_map.mp hb
  exact ⟨_, scoped_site _ site⟩

/-- The blocks of sites are scoped like their bodies, one by one. -/
theorem forall₂_scoped_sites (scope : Scope) (found : List Site) :
    List.Forall₂ Scoped (found.map Site.nodes) (found.map (Site.block scope)) := by
  rw [List.forall₂_map_left_iff, List.forall₂_map_right_iff, List.forall₂_same]
  exact fun site _ => scoped_site scope site

/-- How statements are scoped in a compiled template.

* The code of the template stands, one by one, for the visited statements without a body around them
  and the visited definitions of mixins, in the order in which a traversal leaves them.
* The slots of the template show the constructs that stand in the tree, each body of them in a block
  whose code is exactly the statements that stand in that body; and so on inside.
* The blocks other than the template's own are those of the bodies, one for each.
* Definitions stand nowhere but in the code of the template, nothing else but statements stands
  there, and slots hold iterations, branchings and uses of mixins alone.
* All code together has exactly the visited statements. -/
theorem statements_scoped {tree : Markup.Node} {name : String} {options : Options} {root : Root}
    (h : compileTree tree name options = .ok root) :
    List.Forall₂ Hoists ((postorder false tree).filterMap hoistedNode?) root.block.code ∧
    ((postorder false tree).map Prod.snd).Perm (visited tree) ∧
    List.Forall₂ Shows ((standing tree).filter enclosesBody) (nodesIn root.block.slots) ∧
    (∃ blocks : List (Block Node), blocks.Perm root.blocks.tail ∧
      List.Forall₂ Scoped ((sites { name, options } 0 tree).map Site.nodes) blocks) ∧
    (∀ b ∈ root.blocks.tail, ∀ n, Piece.node n ∉ b.code) ∧
    (∀ n, .node n ∈ root.block.code → ∃ args b, n = .mixin (.definition args) b) ∧
    (∀ b ∈ root.blocks, ∀ n, .node n ∈ b.slots → n.isShown = true) ∧
    (root.blocks.flatMap fun b => sourcesIn b.code).Perm ((visited tree).filterMap statement?) := by
  obtain ⟨-, rfl⟩ := compileTree_eq_ok_iff.mp h
  have hcode := hoists_hoisted { name, options } false 0 tree
  have hslots := shows_marks { name, options } 0 tree
  refine ⟨hcode, Markup.Node.postorder_perm false tree, hslots,
    ⟨_, tail_blocks_perm tree name options, forall₂_scoped_sites _ _⟩, fun b hb n => ?_,
    fun n hn => definition_of_mem_code hcode hn, fun b hb n hn => ?_,
    sourcesIn_code_perm tree name options⟩
  · obtain ⟨body, hbody⟩ := scoped_of_mem_tail hb
    exact hbody.node_not_mem_code n
  · -- the block of the template shows what stands in the tree, any other one what stands in its
    -- body
    rw [blocks_eq_cons_tail, List.mem_cons] at hb
    rcases hb with rfl | hb
    · exact isShown_of_mem_slots hslots hn
    · obtain ⟨body, -, hshows⟩ := scoped_of_mem_tail hb
      exact isShown_of_mem_slots hshows hn

/-- A definition inside an iteration: its own statement goes to its own block, that of the iteration
to the block of the iteration, and the definition comes after the first statement of the
template. -/
theorem statements_scoped_definition :
    compileTree (.block [.code "a" false, .each "xs" "x" none
      (some [.mixin "m" none (some [.code "c" false]) false [], .code "b" false])]) "t" {} =
        .ok ⟨⟨"t", [.source "a", .node (.mixin (.definition none) ⟨"m", [.source "c"], [""], []⟩)],
          ["", ""], [.node (.each "xs" "x" none ⟨"t", [.source "b"], [""], []⟩)]⟩, []⟩ ∧
    List.Forall₂ Hoists [.code "a" false, .mixin "m" none (some [.code "c" false]) false []]
      [.source "a", .node (.mixin (.definition none) ⟨"m", [.source "c"], [""], []⟩)] := by
  have h : compileTree (.block [.code "a" false, .each "xs" "x" none
      (some [.mixin "m" none (some [.code "c" false]) false [], .code "b" false])]) "t" {} =
        .ok ⟨⟨"t", [.source "a", .node (.mixin (.definition none) ⟨"m", [.source "c"], [""], []⟩)],
          ["", ""],
          [.node (.each "xs" "x" none ⟨"t", [.source "b"], [""], []⟩)]⟩, []⟩ := by
    rw [compileTree_eq_ok_iff]
    exact ⟨rfl, rfl⟩
  exact ⟨h, (statements_scoped h).1⟩

end Taglit.Compiled
