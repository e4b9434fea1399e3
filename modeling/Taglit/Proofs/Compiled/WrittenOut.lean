import Taglit.Proofs.Compiled.Blocks

/-!
# Changing the template of one construct

Iterations, branchings and uses of mixins are each written through an output template.  The template
of one construct may be anything: it may drop, repeat or reorder what it is given.  It still says
nothing about the rest of the output.

To *write out* a construct in a tree is to replace the outermost nodes of that kind in all slots by
their sources.  `source_setTemplate` says that a template written under a new output template is the
template in which the construct has been written out under the new one, with all else written under
the old one.
-/

namespace Taglit.Compiled

open Taglit.Output (Format Options)

/-! ## Constructs -/

/-- A construct that is written through an output template of its own: an iteration, a branching, or
the use of a mixin. -/
inductive Construct where
  | each
  | branch
  | use
  deriving DecidableEq, Repr

namespace Construct

/-- Whether a node is of the construct. -/
def isKindOf : Construct → Node → Bool
  | .each, .each .. => true
  | .branch, .condition .. => true
  | .use, .mixin (.call _) _ => true
  | _, _ => false

/-- Options with another template for the construct, and otherwise the same. -/
def setTemplate (construct : Construct) (template : Output.Template) (options : Options) :
    Options :=
  match construct with
  | .each => { options with each := template }
  | .branch => { options with branch := template }
  | .use => { options with mixins := template }

end Construct

/-! ## Writing out -/

mutual

/-- A node with the nodes of the construct in its slots, at any depth, replaced by their sources. -/
def Node.writeOut (construct : Construct) (format : Format) : Node → Node
  | .block b => .block (b.writeOut construct format)
  | .each object value key b => .each object value key (b.writeOut construct format)
  | .condition test alternate b =>
    .condition test (writeOutAlternate construct format alternate) (b.writeOut construct format)
  | .mixin role b => .mixin role (b.writeOut construct format)
  | .root imports b => .root imports (b.writeOut construct format)

/-- A block with the nodes of the construct in slots replaced by their sources. -/
def Block.writeOut (construct : Construct) (format : Format) : Block Node → Block Node
  | ⟨name, code, quasis, slots⟩ =>
    ⟨name, writeOutCode construct format code, quasis, writeOutSlots construct format slots⟩

/-- A branch that may not be there, with the nodes of the construct in slots replaced by their
sources. -/
def writeOutAlternate (construct : Construct) (format : Format) :
    Option (Block Node) → Option (Block Node)
  | none => none
  | some b => some (b.writeOut construct format)

/-- Statements, with the nodes of the construct in slots inside them replaced by their sources. -/
def writeOutCode (construct : Construct) (format : Format) : List (Piece Node) → List (Piece Node)
  | [] => []
  | .source text :: code => .source text :: writeOutCode construct format code
  | .node n :: code => .node (n.writeOut construct format) :: writeOutCode construct format code

/-- Slots, with those that hold a node of the construct holding its source.  What is inside such a
node has been written with it. -/
def writeOutSlots (construct : Construct) (format : Format) : List (Piece Node) → List (Piece Node)
  | [] => []
  | .source text :: slots => .source text :: writeOutSlots construct format slots
  | .node n :: slots =>
    (if construct.isKindOf n then .source (n.toSource format)
      else .node (n.writeOut construct format)) ::
      writeOutSlots construct format slots

end

/-- A template with the nodes of the construct in slots replaced by their sources. -/
def Root.writeOut (construct : Construct) (format : Format) (root : Root) : Root :=
  ⟨root.block.writeOut construct format, root.imports⟩

/-! ## What the template of a construct has no part in -/

/-- The nodes among the statements of the blocks are definitions of mixins. -/
def DefinitionsOnly (blocks : List (Block Node)) : Prop :=
  ∀ b ∈ blocks, ∀ n, .node n ∈ b.code → ∃ args body, n = .mixin (.definition args) body

/-- It holds of fewer blocks, too. -/
theorem DefinitionsOnly.mono {blocks fewer : List (Block Node)} (h : DefinitionsOnly blocks)
    (hfewer : fewer ⊆ blocks) : DefinitionsOnly fewer :=
  fun b hb => h b (hfewer hb)

section

variable (construct : Construct) (template : Output.Template) (tag : String) (options : Options)

/-- The template of a construct has no part in how functions are written. -/
theorem function_setTemplate (body : Body) (args : String) :
    body.function ⟨tag, construct.setTemplate template options⟩ args =
      body.function ⟨tag, options⟩ args := by
  cases construct <;> rfl

/-- Nor has it in how modules are. -/
theorem moduleTemplate_setTemplate :
    (construct.setTemplate template options).modules = options.modules := by
  cases construct <;> rfl

variable {construct}

/-- Only the template of iterations has a part in how iterations are written. -/
theorem eachText_setTemplate (h : construct ≠ .each) (object value : String) (key : Option String)
    (body : Body) :
    eachText ⟨tag, construct.setTemplate template options⟩ object value key body =
      eachText ⟨tag, options⟩ object value key body := by
  cases construct with
  | each => exact absurd rfl h
  | branch => rfl
  | use => rfl

/-- Only the template of branchings has a part in how branchings are written. -/
theorem branchText_setTemplate (h : construct ≠ .branch) (test : String) (consequent : Body)
    (alternate : Option Body) :
    branchText ⟨tag, construct.setTemplate template options⟩ test consequent alternate =
      branchText ⟨tag, options⟩ test consequent alternate := by
  cases construct with
  | each => rfl
  | branch => exact absurd rfl h
  | use => rfl

/-- Only the template of uses has a part in how uses of mixins are written, and none has in how
definitions are. -/
theorem mixinText_setTemplate {role : Role} (h : construct = .use → ∃ args, role = .definition args)
    (body : Body) :
    mixinText ⟨tag, construct.setTemplate template options⟩ role body =
      mixinText ⟨tag, options⟩ role body := by
  cases construct with
  | each => rfl
  | branch => rfl
  | use =>
      obtain ⟨args, rfl⟩ := h rfl
      exact function_setTemplate .use template tag options body (args.getD "")

/-! ## Trees -/

mutual

/-- A node that is not of the construct is written like the node in which the construct has been
written out. -/
theorem toSource_writeOut (n : Node) (hn : construct.isKindOf n = false)
    (h : DefinitionsOnly n.blocks) :
    n.toSource ⟨tag, construct.setTemplate template options⟩ =
      (n.writeOut construct ⟨tag, construct.setTemplate template options⟩).toSource
        ⟨tag, options⟩ := by
  match n with
  | .block b =>
      rw [Node.writeOut, Node.toSource, Node.toSource, bodyOf_writeOut b h]
      rfl
  | .each object value key b =>
      -- an iteration is not of the construct, so its own template is the old one
      have hconstruct : construct ≠ .each := by
        rintro rfl
        cases hn
      rw [Node.writeOut, Node.toSource, Node.toSource, bodyOf_writeOut b h,
        eachText_setTemplate template tag options hconstruct]
  | .condition test alternate b =>
      have hconstruct : construct ≠ .branch := by
        rintro rfl
        cases hn
      rw [Node.blocks] at h
      rw [Node.writeOut, Node.toSource, Node.toSource,
        bodyOf_writeOut b (h.mono (List.subset_append_left _ _)),
        alternateOf_writeOut alternate (h.mono (List.subset_append_right _ _)),
        branchText_setTemplate template tag options hconstruct]
  | .mixin role b =>
      have hrole : construct = .use → ∃ args, role = .definition args := by
        rintro rfl
        cases role with
        | definition args => exact ⟨args, rfl⟩
        | call attributes => cases hn
      rw [Node.writeOut, Node.toSource, Node.toSource, bodyOf_writeOut b h,
        mixinText_setTemplate template tag options hrole]
  | .root imports b =>
      rw [Node.writeOut, Node.toSource, Node.toSource, bodyOf_writeOut b h, function_setTemplate]

/-- A block is written like the block in which the construct has been written out: the slots are the
same texts, and so the literal is. -/
theorem bodyOf_writeOut (b : Block Node) (h : DefinitionsOnly b.blocks) :
    bodyOf ⟨tag, construct.setTemplate template options⟩ b =
      bodyOf ⟨tag, options⟩
        (b.writeOut construct ⟨tag, construct.setTemplate template options⟩) := by
  match b with
  | ⟨name, code, quasis, slots⟩ =>
      rw [Block.blocks] at h
      have hinner : pieceBlocks slots ++ pieceBlocks code ⊆
          ⟨name, code, quasis, slots⟩ :: (pieceBlocks slots ++ pieceBlocks code) :=
        List.subset_cons_self _ _
      have hcode := statementsOf_writeOut code (h _ List.mem_cons_self)
        (h.mono (List.Subset.trans (List.subset_append_right _ _) hinner))
      have hslots :=
        slotsOf_writeOut slots (h.mono (List.Subset.trans (List.subset_append_left _ _) hinner))
      rw [Block.writeOut, bodyOf, bodyOf, hcode, hslots]

/-- The same for a branch that may not be there. -/
theorem alternateOf_writeOut (alternate : Option (Block Node))
    (h : DefinitionsOnly (alternateBlocks alternate)) :
    alternateOf ⟨tag, construct.setTemplate template options⟩ alternate =
      alternateOf ⟨tag, options⟩
        (writeOutAlternate construct ⟨tag, construct.setTemplate template options⟩ alternate) := by
  match alternate with
  | none => rfl
  | some b => rw [writeOutAlternate, alternateOf, alternateOf, bodyOf_writeOut b h]

/-- Statements stay in their places: a definition is never of the construct. -/
theorem statementsOf_writeOut (code : List (Piece Node))
    (hcode : ∀ n, .node n ∈ code → ∃ args body, n = .mixin (.definition args) body)
    (h : DefinitionsOnly (pieceBlocks code)) :
    statementsOf ⟨tag, construct.setTemplate template options⟩ code =
      statementsOf ⟨tag, options⟩
        (writeOutCode construct ⟨tag, construct.setTemplate template options⟩ code) := by
  match code with
  | [] => rfl
  | .source text :: code =>
      have hrest := statementsOf_writeOut code (fun n hn => hcode n (List.mem_cons_of_mem _ hn)) h
      rw [writeOutCode, statementsOf, statementsOf, hrest]
  | .node n :: code =>
      rw [pieceBlocks] at h
      have hkind : construct.isKindOf n = false := by
        obtain ⟨args, body, rfl⟩ := hcode n List.mem_cons_self
        cases construct <;> rfl
      have hnode := toSource_writeOut n hkind (h.mono (List.subset_append_left _ _))
      have hrest := statementsOf_writeOut code (fun n hn => hcode n (List.mem_cons_of_mem _ hn))
        (h.mono (List.subset_append_right _ _))
      rw [writeOutCode, statementsOf, statementsOf, hnode, hrest]

/-- The slots are the same texts: a node of the construct has been written, any other one is written
alike. -/
theorem slotsOf_writeOut (slots : List (Piece Node)) (h : DefinitionsOnly (pieceBlocks slots)) :
    slotsOf ⟨tag, construct.setTemplate template options⟩ slots =
      slotsOf ⟨tag, options⟩
        (writeOutSlots construct ⟨tag, construct.setTemplate template options⟩ slots) := by
  match slots with
  | [] => rfl
  | .source text :: slots => rw [writeOutSlots, slotsOf, slotsOf, slotsOf_writeOut slots h]
  | .node n :: slots =>
      rw [pieceBlocks] at h
      have hrest := slotsOf_writeOut slots (h.mono (List.subset_append_right _ _))
      cases hkind : construct.isKindOf n with
      | true =>
          -- its source under the new options stands in the slot already
          rw [writeOutSlots, hkind, if_pos rfl, slotsOf, slotsOf, hrest]
      | false =>
          have hnode := toSource_writeOut n hkind (h.mono (List.subset_append_left _ _))
          rw [writeOutSlots, hkind, if_neg Bool.false_ne_true, slotsOf, slotsOf, hnode, hrest]

end

end

/-! ## Templates -/

/-- Another output template for one construct changes what that construct is written as, and nothing
else.  Written under the new one, a template is, in all its forms, what the old one makes of the
template in which the outermost nodes of the construct have been replaced by their sources under the
new one. -/
theorem source_setTemplate (construct : Construct) (template : Output.Template) (options : Options)
    (tag args : String) {root : Root}
    (h : ∀ b ∈ root.blocks, ∀ n, .node n ∈ b.code →
      ∃ args body, n = .mixin (.definition args) body) :
    let changed : Format := ⟨tag, construct.setTemplate template options⟩
    root.toSource changed = (root.writeOut construct changed).toSource ⟨tag, options⟩ ∧
    root.function changed args = (root.writeOut construct changed).function ⟨tag, options⟩ args ∧
    root.moduleSource changed args =
      (root.writeOut construct changed).moduleSource ⟨tag, options⟩ args := by
  intro changed
  have hfunction (params : String) : root.function changed params =
      (root.writeOut construct changed).function ⟨tag, options⟩ params := by
    have hbody : bodyOf changed root.block =
        bodyOf ⟨tag, options⟩ (root.block.writeOut construct changed) :=
      bodyOf_writeOut template tag options root.block h
    rw [Root.function, Block.function, hbody, function_setTemplate]
    rfl
  have hmodules : changed.options.modules = options.modules :=
    moduleTemplate_setTemplate construct template options
  refine ⟨hfunction "", hfunction args, ?_⟩
  rw [Root.moduleSource, Root.moduleSource, hmodules, hfunction args]
  rfl

/-- An iteration below a branching and one in the definition of a mixin, under a template that
leaves out the statements of iterations. -/
theorem source_setTemplate_rows :
    let changed : Format :=
      ⟨"html", Construct.setTemplate .each (.ofSource "$object.map($args=>$child)") {}⟩
    let rows : Node :=
      .each "rows" "r" none ⟨"t", [.source "f(r)"], ["<li>", "</li>"], [.source "r"]⟩
    Root.toSource changed
      ⟨⟨"t", [.node (.mixin (.definition none) ⟨"m", [], ["", ""], [.node rows]⟩)],
        ["<ul>", "</ul>"], [.node (.condition "ok" none ⟨"t", [], ["", ""], [.node rows]⟩)]⟩, []⟩ =
    Root.toSource ⟨"html", {}⟩
      ⟨⟨"t",
        [.node (.mixin (.definition none) ⟨"m", [], ["", ""], [.source (rows.toSource changed)]⟩)],
        ["<ul>", "</ul>"],
        [.node (.condition "ok" none ⟨"t", [], ["", ""], [.source (rows.toSource changed)]⟩)]⟩,
        []⟩ :=
  (source_setTemplate .each (.ofSource "$object.map($args=>$child)") {} "html" ""
    (by simp [Root.blocks, Block.blocks, Node.blocks, pieceBlocks, alternateBlocks])).1

end Taglit.Compiled
