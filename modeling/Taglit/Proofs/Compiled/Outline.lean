import Taglit.Proofs.Compiled.Attributes
import Taglit.Proofs.Compiled.Closed
import Taglit.Proofs.Compiled.Refusal

/-!
# What options can change

Output options give attributes their names, write the handlers of events and escape static values,
and all of this ends up in the compiled tree.  They have no say in its structure.

The *outline* of a compiled tree is the tree with those texts left blank: the quasis, the sources in
slots, and the names and values of attributes.  All else stays: which nodes there are and how they
nest, how many quasis and slots a block has, its statements, the kind of every attribute, and the
imports.  `compileTree_outline` says that two compilations of one tree under different options are
refused for the same reason or have the same outline, and that they are equal if the options agree
on attributes.
-/

namespace Taglit.Compiled

open Taglit.Output (Options)
open Taglit.Markup.Node
  (includedIn visited visitedAll visitedBody leadingAll leadingBody unsupportedIn)

/-! ## Outlines -/

/-- The kind of a content. -/
def Content.outline : Content → Content
  | .bare => .bare
  | .static _ => .static ""
  | .code _ => .code ""

/-- An attribute of which only the kind is left. -/
def Attribute.outline (a : Attribute) : Attribute :=
  ⟨"", a.content.outline⟩

/-- A role with the outlines of its attributes. -/
def Role.outline : Role → Role
  | .definition args => .definition args
  | .call attributes => .call (attributes.map Attribute.outline)

mutual

/-- A node with its texts left blank. -/
def Node.outline : Node → Node
  | .block b => .block b.outline
  | .each object value key b => .each object value key b.outline
  | .condition test alternate b => .condition test (outlineAlternate alternate) b.outline
  | .mixin role b => .mixin role.outline b.outline
  | .root imports b => .root imports b.outline

/-- A block with its texts left blank. -/
def Block.outline : Block Node → Block Node
  | ⟨name, code, quasis, slots⟩ =>
    ⟨name, outlineCode code, quasis.map fun _ => "", outlineSlots slots⟩

/-- A branch that may not be there, with its texts left blank. -/
def outlineAlternate : Option (Block Node) → Option (Block Node)
  | none => none
  | some b => some b.outline

/-- Statements with their texts, and the outlines of the definitions among them. -/
def outlineCode : List (Piece Node) → List (Piece Node)
  | [] => []
  | .source text :: code => .source text :: outlineCode code
  | .node n :: code => .node n.outline :: outlineCode code

/-- Slots with their sources left blank. -/
def outlineSlots : List (Piece Node) → List (Piece Node)
  | [] => []
  | .source _ :: slots => .source "" :: outlineSlots slots
  | .node n :: slots => .node n.outline :: outlineSlots slots

end

/-- A template with its texts left blank. -/
def Root.outline (root : Root) : Root :=
  ⟨root.block.outline, root.imports⟩

/-- The outlines of slots, one list after the other. -/
theorem outlineSlots_append (xs ys : List (Piece Node)) :
    outlineSlots (xs ++ ys) = outlineSlots xs ++ outlineSlots ys := by
  induction xs with
  | nil => simp [outlineSlots]
  | cons x xs ih => cases x <;> simp [outlineSlots, ih]

/-- The outlines of statements, one list after the other. -/
theorem outlineCode_append (xs ys : List (Piece Node)) :
    outlineCode (xs ++ ys) = outlineCode xs ++ outlineCode ys := by
  induction xs with
  | nil => simp [outlineCode]
  | cons x xs ih => cases x <;> simp [outlineCode, ih]

/-- Sources among statements stay as they are. -/
theorem outlineCode_map_source (texts : List String) :
    outlineCode (texts.map Piece.source) = texts.map Piece.source := by
  induction texts with
  | nil => rfl
  | cons text texts ih => exact congrArg (.source text :: ·) ih

/-- No slot is left out. -/
theorem length_outlineSlots (slots : List (Piece Node)) :
    (outlineSlots slots).length = slots.length := by
  induction slots with
  | nil => rfl
  | cons slot slots ih => cases slot <;> simp [outlineSlots, ih]

mutual

/-- Nodes are counted in the outline. -/
theorem count_outline (n : Node) : n.outline.count = n.count := by
  match n with
  | .block b => exact countBlock_outline b
  | .each _ _ _ b => exact countBlock_outline b
  | .condition _ alternate b =>
      rw [Node.outline, Node.count, Node.count, countBlock_outline b,
        countAlternate_outline alternate]
  | .mixin _ b => exact countBlock_outline b
  | .root _ b => exact countBlock_outline b

/-- The same for a block. -/
theorem countBlock_outline (b : Block Node) : countBlock b.outline = countBlock b := by
  match b with
  | ⟨name, code, quasis, slots⟩ =>
      rw [Block.outline, countBlock, countBlock, countPieces_outlineSlots slots,
        countPieces_outlineCode code]

/-- The same for a branch that may not be there. -/
theorem countAlternate_outline (alternate : Option (Block Node)) :
    countAlternate (outlineAlternate alternate) = countAlternate alternate := by
  match alternate with
  | none => rfl
  | some b => exact countBlock_outline b

/-- The same for statements. -/
theorem countPieces_outlineCode (code : List (Piece Node)) :
    countPieces (outlineCode code) = countPieces code := by
  match code with
  | [] => rfl
  | .source _ :: code => exact countPieces_outlineCode code
  | .node n :: code =>
      rw [outlineCode, countPieces, countPieces, count_outline n, countPieces_outlineCode code]

/-- The same for slots. -/
theorem countPieces_outlineSlots (slots : List (Piece Node)) :
    countPieces (outlineSlots slots) = countPieces slots := by
  match slots with
  | [] => rfl
  | .source _ :: slots => exact countPieces_outlineSlots slots
  | .node n :: slots =>
      rw [outlineSlots, countPieces, countPieces, count_outline n, countPieces_outlineSlots slots]

end

/-- The block of a body has as many quasis as its slots need, so its outline is that of its
slots. -/
theorem outline_enclosed (name : String) (statements : List String) (marks : List Mark) :
    (enclosed name statements marks).outline =
      ⟨name, statements.map Piece.source,
        List.replicate ((outlineSlots (slotsIn marks)).length + 1) "",
        outlineSlots (slotsIn marks)⟩ := by
  have hquasis : (finished "" marks ++ [remaining "" marks]).map (fun _ => "") =
      List.replicate ((outlineSlots (slotsIn marks)).length + 1) "" := by
    rw [List.map_const', List.length_append, length_finished, length_outlineSlots,
      List.length_singleton]
  rw [enclosed, Block.outline, outlineCode_map_source, hquasis]

/-! ## Attributes -/

/-- Options have no say in what kind of content an attribute has, nor in whether it brings a
companion along. -/
theorem outline_classify (o p : Options) (a : Markup.Attribute) :
    (primary o a).outline = (primary p a).outline ∧
      (companion? o a).map Attribute.outline = (companion? p a).map Attribute.outline := by
  unfold primary companion? classify
  split
  · exact ⟨rfl, rfl⟩
  · split
    · split
      · exact ⟨rfl, rfl⟩
      · exact ⟨rfl, rfl⟩
    · split
      · exact ⟨rfl, rfl⟩
      · refine ⟨?_, rfl⟩
        -- a quoted text is read before options say whether it is escaped
        unfold plainContent
        split
        · rfl
        · rfl
        · rfl
        · split <;> rfl

/-- Nor in the outlines of all the attributes of a tag. -/
theorem outline_compileAttributes (o p : Options) (attributes : List Markup.Attribute) :
    (compileAttributes o attributes).map Attribute.outline =
      (compileAttributes p attributes).map Attribute.outline := by
  have hprimary : attributes.map (Attribute.outline ∘ primary o) =
      attributes.map (Attribute.outline ∘ primary p) :=
    List.map_congr_left fun a _ => (outline_classify o p a).1
  have hcompanion : attributes.filterMap (fun a => (companion? o a).map Attribute.outline) =
      attributes.filterMap fun a => (companion? p a).map Attribute.outline :=
    congrArg (attributes.filterMap ·) (funext fun a => (outline_classify o p a).2)
  rw [compileAttributes_eq, compileAttributes_eq, List.map_append, List.map_append, List.map_map,
    List.map_map, List.map_filterMap, List.map_filterMap, hprimary, hcompanion]

/-- The slots that attributes leave in a tag can be told from the kinds of the attributes. -/
theorem outlineSlots_attributes (attributes : List Attribute) :
    outlineSlots (slotsIn (attributes.flatMap Attribute.marks)) =
      slotsIn ((attributes.map Attribute.outline).flatMap Attribute.marks) := by
  induction attributes with
  | nil => rfl
  | cons a attributes ih =>
      obtain ⟨name, content⟩ := a
      rw [List.flatMap_cons, slotsIn_append, outlineSlots_append, ih, List.map_cons,
        List.flatMap_cons, slotsIn_append]
      cases content <;> rfl

/-! ## The outline of a yield -/

section

variable {o p : Options}

mutual

/-- Options have no say in the outline of the slots that a node leaves. -/
theorem outlineSlots_marks (name : String) (seen : Nat) (node : Markup.Node) :
    outlineSlots (slotsIn (marks ⟨name, o⟩ seen node)) =
      outlineSlots (slotsIn (marks ⟨name, p⟩ seen node)) := by
  match node with
  | .block nodes => exact outlineSlots_marksAll name seen nodes
  | .tag _ attributes children selfClosing =>
      have hattributes :
          outlineSlots (slotsIn ((compileAttributes o attributes).flatMap Attribute.marks)) =
            outlineSlots (slotsIn ((compileAttributes p attributes).flatMap Attribute.marks)) := by
        rw [outlineSlots_attributes, outlineSlots_attributes, outline_compileAttributes o p]
      have hchildren := outlineSlots_marksBody name seen children
      cases selfClosing <;>
        simp [marks, slotsIn, slotsIn_append, outlineSlots_append, hattributes, hchildren]
  | .each _ _ _ none => rfl
  | .each _ _ _ (some body) =>
      have hbody := outlineSlots_marksAll name seen body
      simp only [marks, slotsIn, outlineSlots, Node.outline, outline_enclosed, hbody]
  | .conditional _ consequent alternate =>
      have hconsequent := outlineSlots_marksAll name seen consequent
      have halternate := outlineAlternate_alternateBlock name
        (seen + (includedIn (visitedAll consequent)).length) alternate
      simp only [marks, slotsIn, outlineSlots, Node.outline, outline_enclosed, hconsequent,
        halternate]
  | .mixin _ _ _ false _ => rfl
  | .mixin _ _ body true attributes =>
      have hbody := outlineSlots_marksBody name seen body
      simp only [marks, slotsIn, outlineSlots, Node.outline, Role.outline, outline_enclosed, hbody,
        outline_compileAttributes o p]
  | .code _ true => rfl
  | .code _ false => rfl
  | .doctype _ => rfl
  | .text _ => rfl
  | .rawInclude _ => rfl
  | .unsupported _ => rfl

/-- The same for a list of nodes. -/
theorem outlineSlots_marksAll (name : String) (seen : Nat) (nodes : List Markup.Node) :
    outlineSlots (slotsIn (marksAll ⟨name, o⟩ seen nodes)) =
      outlineSlots (slotsIn (marksAll ⟨name, p⟩ seen nodes)) := by
  match nodes with
  | [] => rfl
  | node :: nodes =>
      rw [marksAll, marksAll, slotsIn_append, slotsIn_append, outlineSlots_append,
        outlineSlots_append, outlineSlots_marks name seen node, outlineSlots_marksAll name _ nodes]

/-- The same for a body that may not be there. -/
theorem outlineSlots_marksBody (name : String) (seen : Nat) (body : Option (List Markup.Node)) :
    outlineSlots (slotsIn (marksBody ⟨name, o⟩ seen body)) =
      outlineSlots (slotsIn (marksBody ⟨name, p⟩ seen body)) := by
  match body with
  | none => rfl
  | some nodes => exact outlineSlots_marksAll name seen nodes

/-- The same for a branch that may not be there. -/
theorem outlineAlternate_alternateBlock (name : String) (seen : Nat)
    (alternate : Option Markup.Node) :
    outlineAlternate (alternateBlock ⟨name, o⟩ seen alternate) =
      outlineAlternate (alternateBlock ⟨name, p⟩ seen alternate) := by
  match alternate with
  | none => rfl
  | some node =>
      simp only [alternateBlock, outlineAlternate, outline_enclosed,
        outlineSlots_marks name seen node]

end

mutual

/-- Options have no say in the outline of what a node hoists. -/
theorem outlineCode_hoisted (name : String) (nested : Bool) (seen : Nat) (node : Markup.Node) :
    outlineCode (hoisted ⟨name, o⟩ nested seen node) =
      outlineCode (hoisted ⟨name, p⟩ nested seen node) := by
  match node with
  | .block nodes => exact outlineCode_hoistedAll name nested seen nodes
  | .code _ true => simp only [hoisted]
  | .code _ false => simp only [hoisted]
  | .tag _ _ _ true => simp only [hoisted, if_true]
  | .tag _ _ children false => exact outlineCode_hoistedBody name nested seen children
  | .each _ _ _ body => exact outlineCode_hoistedBody name true seen body
  | .conditional _ consequent alternate =>
      rw [hoisted, hoisted, outlineCode_append, outlineCode_append,
        outlineCode_hoistedAll name true seen consequent,
        outlineCode_hoistedAlternate name _ alternate]
  | .mixin _ args body false _ =>
      have hbody := outlineSlots_marksBody (o := o) (p := p) name seen body
      rw [hoisted, hoisted, outlineCode_append, outlineCode_append,
        outlineCode_hoistedBody name true seen body]
      simp only [outlineCode, Node.outline, Role.outline, outline_enclosed, hbody]
  | .mixin _ _ body true _ => exact outlineCode_hoistedBody name true seen body
  | .doctype _ => simp only [hoisted]
  | .text _ => simp only [hoisted]
  | .rawInclude _ => simp only [hoisted]
  | .unsupported _ => simp only [hoisted]

/-- The same for a list of nodes. -/
theorem outlineCode_hoistedAll (name : String) (nested : Bool) (seen : Nat)
    (nodes : List Markup.Node) :
    outlineCode (hoistedAll ⟨name, o⟩ nested seen nodes) =
      outlineCode (hoistedAll ⟨name, p⟩ nested seen nodes) := by
  match nodes with
  | [] => rfl
  | node :: nodes =>
      rw [hoistedAll, hoistedAll, outlineCode_append, outlineCode_append,
        outlineCode_hoisted name nested seen node, outlineCode_hoistedAll name nested _ nodes]

/-- The same for a body that may not be there. -/
theorem outlineCode_hoistedBody (name : String) (nested : Bool) (seen : Nat)
    (body : Option (List Markup.Node)) :
    outlineCode (hoistedBody ⟨name, o⟩ nested seen body) =
      outlineCode (hoistedBody ⟨name, p⟩ nested seen body) := by
  match body with
  | none => rfl
  | some nodes => exact outlineCode_hoistedAll name nested seen nodes

/-- The same for a branch that may not be there. -/
theorem outlineCode_hoistedAlternate (name : String) (seen : Nat) (alternate : Option Markup.Node) :
    outlineCode (hoistedAlternate ⟨name, o⟩ seen alternate) =
      outlineCode (hoistedAlternate ⟨name, p⟩ seen alternate) := by
  match alternate with
  | none => rfl
  | some node => exact outlineCode_hoisted name true seen node

end

end

/-- Options have no say in the outline of the template that a tree yields. -/
theorem outline_rootOf (tree : Markup.Node) (name : String) (o p : Options) :
    (rootOf tree name o).outline = (rootOf tree name p).outline := by
  -- the outline of the template's block, from the marks and from what is hoisted
  have hblock (q : Options) : (rootOf tree name q).block.outline =
      { (enclosed name [] (marks ⟨name, q⟩ 0 tree)).outline with
        code := outlineCode (hoisted ⟨name, q⟩ false 0 tree) } := rfl
  rw [Root.outline, Root.outline, hblock, hblock, outline_enclosed, outline_enclosed,
    outlineSlots_marks (o := o) (p := p) name 0 tree, outlineCode_hoisted (o := o) (p := p)]
  rfl

/-! ## Options that agree on attributes -/

/-- Options that compile attributes in the same way, whatever they do with constructs: names of
events, of properties and of the events that write them back are the same, and handlers are wrapped
and values escaped alike. -/
structure AgreeOnAttributes (o p : Options) : Prop where
  events : o.events = p.events
  properties : o.properties = p.properties
  bindings : o.bindings = p.bindings
  wrapEvents : o.wrapEvents = p.wrapEvents
  escapeAttributes : o.escapeAttributes = p.escapeAttributes

namespace AgreeOnAttributes

variable {o p : Options}

/-- An attribute is compiled alike. -/
theorem classify_congr (h : AgreeOnAttributes o p) (a : Markup.Attribute) :
    classify o a = classify p a := by
  have hevent : o.eventName = p.eventName := by
    funext name
    rw [Options.eventName, Options.eventName, h.events]
  have hproperty : o.propertyName = p.propertyName := by
    funext name
    rw [Options.propertyName, Options.propertyName, h.properties]
  have hbinding : o.bindingEvent = p.bindingEvent := by
    funext name
    rw [Options.bindingEvent, Options.bindingEvent, h.bindings, hevent]
  have hhandler : o.eventHandler = p.eventHandler := by
    funext body
    rw [Options.eventHandler, Options.eventHandler, h.wrapEvents]
  -- the names and the handler are all that shorthands ask for, and plain names ask for escaping
  have hplain : plainContent o a = plainContent p a := by
    rw [plainContent, plainContent, h.escapeAttributes]
  simp only [classify, twoWay, hevent, hproperty, hbinding, hhandler, hplain]

/-- So are all attributes of a tag. -/
theorem compileAttributes_congr (h : AgreeOnAttributes o p) :
    compileAttributes o = compileAttributes p := by
  funext attributes
  have hprimary : primary o = primary p := funext fun a => congrArg Prod.fst (h.classify_congr a)
  have hcompanion : companion? o = companion? p :=
    funext fun a => congrArg Prod.snd (h.classify_congr a)
  rw [compileAttributes_eq, compileAttributes_eq, hprimary, hcompanion]

mutual

/-- A pass reads the options for nothing but the attributes. -/
theorem lower_congr (h : AgreeOnAttributes o p) (name : String) (nested : Bool)
    (node : Markup.Node) : lower ⟨name, o⟩ nested node = lower ⟨name, p⟩ nested node := by
  funext draft
  match node with
  | .block nodes => rw [lower, lower, lowerAll_congr h name nested nodes]
  | .tag _ _ children _ =>
      simp only [lower, h.compileAttributes_congr, lowerBody_congr h name nested children]
  | .each _ _ _ none => rfl
  | .each _ _ _ (some body) => rw [lower, lower, lowerAll_congr h name true body]
  | .conditional _ consequent alternate =>
      rw [lower, lower, lowerAll_congr h name true consequent,
        lowerAlternate_congr h name alternate]
  | .mixin _ _ body false _ => rw [lower, lower, lowerBody_congr h name true body]
  | .mixin _ _ none true _ => rw [lower, lower, h.compileAttributes_congr]
  | .mixin _ _ (some body) true _ =>
      rw [lower, lower, h.compileAttributes_congr, lowerAll_congr h name true body]
  | .code _ true => rfl
  | .code _ false => rfl
  | .doctype _ => rfl
  | .text _ => rfl
  | .rawInclude _ => rfl
  | .unsupported _ => rfl

/-- The same for a list of nodes. -/
theorem lowerAll_congr (h : AgreeOnAttributes o p) (name : String) (nested : Bool)
    (nodes : List Markup.Node) :
    lowerAll ⟨name, o⟩ nested nodes = lowerAll ⟨name, p⟩ nested nodes := by
  funext draft
  match nodes with
  | [] => rfl
  | node :: nodes =>
      rw [lowerAll, lowerAll, lower_congr h name nested node, lowerAll_congr h name nested nodes]

/-- The same for a body that may not be there. -/
theorem lowerBody_congr (h : AgreeOnAttributes o p) (name : String) (nested : Bool)
    (body : Option (List Markup.Node)) :
    lowerBody ⟨name, o⟩ nested body = lowerBody ⟨name, p⟩ nested body := by
  funext draft
  match body with
  | none => rfl
  | some nodes => rw [lowerBody, lowerBody, lowerAll_congr h name nested nodes]

/-- The same for a branch that may not be there. -/
theorem lowerAlternate_congr (h : AgreeOnAttributes o p) (name : String)
    (alternate : Option Markup.Node) :
    lowerAlternate ⟨name, o⟩ alternate = lowerAlternate ⟨name, p⟩ alternate := by
  funext draft
  match alternate with
  | none => rfl
  | some node => rw [lowerAlternate, lowerAlternate, lower_congr h name true node]

end

/-- Options that agree on attributes compile a tree alike. -/
theorem compileTree_congr (h : AgreeOnAttributes o p) (tree : Markup.Node) (name : String) :
    compileTree tree name o = compileTree tree name p := by
  rw [compileTree, compileTree, h.lower_congr]

end AgreeOnAttributes

/-! ## Compiled templates -/

/-- Options have no say in the structure of a compiled template.  Under any two options a tree is
refused for the same reason, or compiled into templates of one outline, with the same imports and
the same number of nodes.  If the options agree on attributes the templates are the same. -/
theorem compileTree_outline (tree : Markup.Node) (name : String) (o p : Options) :
    ((∃ e, compileTree tree name o = .error e ∧ compileTree tree name p = .error e) ∨
      ∃ r s, compileTree tree name o = .ok r ∧ compileTree tree name p = .ok s ∧
        r.outline = s.outline ∧ r.imports = s.imports ∧ r.count = s.count) ∧
    (AgreeOnAttributes o p → compileTree tree name o = compileTree tree name p) := by
  refine ⟨?_, fun h => h.compileTree_congr tree name⟩
  rw [compileTree_eq, compileTree_eq]
  cases unsupportedIn (visited tree) with
  | cons kind kinds => exact .inl ⟨.unhandledNode kind, rfl, rfl⟩
  | nil =>
      have houtline := outline_rootOf tree name o p
      -- nodes are counted in the outline, which is the same
      have hcount : (rootOf tree name o).count = (rootOf tree name p).count := by
        rw [Root.count, Root.count, ← countBlock_outline,
          ← countBlock_outline (rootOf tree name p).block]
        exact congrArg (countBlock ∘ Root.block) houtline
      exact .inr ⟨_, _, rfl, rfl, houtline, rfl, hcount⟩

/-- An event inside a branching: the template for branches is not read when the tree is compiled. -/
theorem compileTree_outline_branch :
    AgreeOnAttributes {} { branch := .ofSource "$test && $consequent" } ∧
    compileTree (.conditional "ok"
        [.tag "a" [⟨"@click", some (.source "go()"), true⟩] none false] none) "t" {} =
      compileTree (.conditional "ok"
        [.tag "a" [⟨"@click", some (.source "go()"), true⟩] none false] none)
        "t" { branch := .ofSource "$test && $consequent" } := by
  have hagree : AgreeOnAttributes {} { branch := .ofSource "$test && $consequent" } :=
    ⟨rfl, rfl, rfl, rfl, rfl⟩
  exact ⟨hagree, (compileTree_outline _ _ _ _).2 hagree⟩

end Taglit.Compiled
