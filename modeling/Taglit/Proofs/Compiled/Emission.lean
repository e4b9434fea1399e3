import Taglit.Proofs.Compiled.Closed
import Taglit.Proofs.Output.Binding

/-!
# Compilation as a direct translation

`emit` writes the text of a template literal by plain recursion on the markup tree: nothing is
pending, and there are neither quasis nor slots nor blocks.  `emitHoisted` does the same for the
statements of the template.  Both write every construct out from its statements and its text: the
literal with its tag, the expression that runs statements before a literal, and what the names in
each output template are bound to.

`compileTree_emits` says that compiling a tree and writing its source out gives the text of the
direct translation.
-/

namespace Taglit.Compiled

open Taglit.Output (Format Options Placeholders)
open Taglit.Markup.Node (unsupportedIn includedIn visited visitedAll visitedBody visitedAlternate
  leading leadingAll leadingBody)

/-! ## Constructs, from their statements and their text -/

/-- The template literal of a text. -/
def emitLiteral (format : Format) (html : String) : String :=
  format.tag ++ "`" ++ html ++ "`"

/-- Statements and then the literal of a text, as one expression.  A literal alone stands for
itself.  Expressions are put in a sequence with the literal.  Any other statements become the body
of a function that returns the literal and is called at once. -/
def emitExpression (format : Format) (statements : List String) (html : String) : String :=
  if statements = [] then emitLiteral format html
  else if statements.all Script.isExpression then
    "(" ++ ",".intercalate (statements ++ [emitLiteral format html]) ++ ")"
  else "(()=>\x7b" ++ ";".intercalate (statements ++ ["return " ++ emitLiteral format html]) ++
    "\x7d)()"

/-- A function that runs statements and returns the literal of a text. -/
def emitFunction (format : Format) (name args : String) (statements : List String) (html : String) :
    String :=
  format.options.functions.render (.ofBindings
    [⟨"name", .text name⟩, ⟨"args", .text args⟩, ⟨"code", .text (";".intercalate statements)⟩,
      ⟨"child", .text (emitLiteral format html)⟩])

/-- The literal of a text for each entry of an object.  A key that has no name is called `_`. -/
def emitEach (format : Format) (object value : String) (key : Option String)
    (statements : List String) (html : String) : String :=
  format.options.each.render (.ofBindings
    [⟨"key", .text (key.getD "_")⟩, ⟨"value", .text value⟩,
      ⟨"args", .text (",".intercalate (value :: key.toList))⟩, ⟨"object", .text object⟩,
      ⟨"code", .deferred (";".intercalate statements)⟩,
      ⟨"child", .deferred (emitLiteral format html)⟩])

/-- One of two expressions. -/
def emitBranch (format : Format) (test consequent alternate : String) : String :=
  format.options.branch.render (.ofBindings
    [⟨"test", .text test⟩, ⟨"consequent", .text consequent⟩, ⟨"alternate", .text alternate⟩])

/-- The use of a mixin, with attributes and a body. -/
def emitCall (format : Format) (mixinName : String) (attributes : List Attribute)
    (statements : List String) (html : String) : String :=
  format.options.mixins.render (.ofBindings
    [⟨"mixin", .text mixinName⟩,
      ⟨"props", .deferred (",".intercalate (attributes.map Attribute.prop))⟩,
      ⟨"attrs", .deferred (" ".intercalate (attributes.map Attribute.markup))⟩,
      ⟨"children", .deferred (emitExpression format statements html)⟩, ⟨"content", .deferred html⟩])

/-- A module: the lines that import what is included, and the function of the template. -/
def emitModule (format : Format) (imports : List String) (function : String) : String :=
  format.options.modules.render (.ofBindings
    [⟨"imports", .text ("\n".intercalate imports)⟩, ⟨"function", .deferred function⟩])

/-! ## The direct translation -/

mutual

/-- The text that a node shows in the template literal around it, if `seen` files were included
before it.  `name` is the name of the template. -/
def emit (format : Format) (name : String) (seen : Nat) : Markup.Node → String
  | .block nodes => emitAll format name seen nodes
  | .doctype value => Text.escapeTemplate ("<!DOCTYPE " ++ value ++ ">")
  | .text value => Text.escapeTemplate value
  | .code value true => substitution value
  | .code _ false => ""
  | .tag tagName attributes children selfClosing =>
    "<" ++ tagName
      ++ String.join ((compileAttributes format.options attributes).map fun a => " " ++ a.markup)
      ++ if selfClosing then "/>"
        else ">" ++ emitBody format name seen children ++ "</" ++ tagName ++ ">"
  | .each _ _ _ none => ""
  | .each object value key (some body) =>
    substitution
      (emitEach format object value key (leadingAll body) (emitAll format name seen body))
  | .conditional test consequent alternate =>
    substitution (emitBranch format test
      (emitExpression format (leadingAll consequent) (emitAll format name seen consequent))
      (emitAlternate format name (seen + (includedIn (visitedAll consequent)).length) alternate))
  -- a definition is shown nowhere: it is a statement of the template
  | .mixin _ _ _ false _ => ""
  | .mixin mixinName _ body true attributes =>
    substitution (emitCall format mixinName (compileAttributes format.options attributes)
      (leadingBody body) (emitBody format name seen body))
  | .rawInclude _ => substitution ("__include$" ++ toString (seen + 1))
  | .unsupported _ => ""

/-- The texts of a list of nodes, one after the other. -/
def emitAll (format : Format) (name : String) (seen : Nat) : List Markup.Node → String
  | [] => ""
  | node :: nodes =>
    emit format name seen node ++
      emitAll format name (seen + (includedIn (visited node)).length) nodes

/-- The text of a body that may not be there. -/
def emitBody (format : Format) (name : String) (seen : Nat) : Option (List Markup.Node) → String
  | none => ""
  | some nodes => emitAll format name seen nodes

/-- The branch that may not be there, for which the options have a text. -/
def emitAlternate (format : Format) (name : String) (seen : Nat) : Option Markup.Node → String
  | none => format.options.otherwise
  | some node => emitExpression format (leading node) (emit format name seen node)

end

mutual

/-- The statements that a node adds to those of the template: the functions of the mixins defined in
it, each after those defined in its body, and its own statements unless it stands in the body of
something. -/
def emitHoisted (format : Format) (name : String) (nested : Bool) (seen : Nat) :
    Markup.Node → List String
  | .block nodes => emitHoistedAll format name nested seen nodes
  | .code value false => if nested then [] else [value]
  | .tag _ _ children selfClosing =>
    if selfClosing then [] else emitHoistedBody format name nested seen children
  | .each _ _ _ body => emitHoistedBody format name true seen body
  | .conditional _ consequent alternate =>
    emitHoistedAll format name true seen consequent ++
      emitHoistedAlternate format name (seen + (includedIn (visitedAll consequent)).length)
        alternate
  | .mixin mixinName args body false _ =>
    emitHoistedBody format name true seen body ++
      [emitFunction format mixinName (args.getD "") (leadingBody body)
        (emitBody format name seen body)]
  | .mixin _ _ body true _ => emitHoistedBody format name true seen body
  | _ => []

/-- The statements that a list of nodes adds to those of the template. -/
def emitHoistedAll (format : Format) (name : String) (nested : Bool) (seen : Nat) :
    List Markup.Node → List String
  | [] => []
  | node :: nodes =>
    emitHoisted format name nested seen node ++
      emitHoistedAll format name nested (seen + (includedIn (visited node)).length) nodes

/-- The statements that a body that may not be there adds to those of the template. -/
def emitHoistedBody (format : Format) (name : String) (nested : Bool) (seen : Nat) :
    Option (List Markup.Node) → List String
  | none => []
  | some nodes => emitHoistedAll format name nested seen nodes

/-- The statements that a branch that may not be there adds to those of the template. -/
def emitHoistedAlternate (format : Format) (name : String) (seen : Nat) :
    Option Markup.Node → List String
  | none => []
  | some node => emitHoisted format name true seen node

end

/-- The function of the whole template, translated directly. -/
def emitTemplate (format : Format) (name args : String) (tree : Markup.Node) : String :=
  emitFunction format name args (emitHoisted format name false 0 tree) (emit format name 0 tree)

/-! ## Bodies are written like constructs -/

/-- Statements that are sources. -/
def written (statements : List String) : List Written :=
  statements.map fun text => ⟨text, Script.isExpression text⟩

/-- The texts of sources are the sources. -/
@[simp] theorem map_text_written (statements : List String) :
    (written statements).map Written.text = statements := by
  rw [written, List.map_map]
  exact List.map_id statements

/-- Whether sources are all expressions is read off the sources. -/
theorem all_written (statements : List String) :
    (written statements).all Written.isExpression = statements.all Script.isExpression := by
  rw [written, List.all_map]
  rfl

/-- What follows statements and their separator is the last item of one list with them. -/
theorem intercalate_concat_of_ne_nil {separator : String} {statements : List String}
    (h : statements ≠ []) (last : String) :
    separator.intercalate (statements ++ [last]) =
      separator.intercalate statements ++ separator ++ last := by
  rw [String.intercalate_append_of_ne_nil h (List.cons_ne_nil _ _), String.intercalate_singleton]

section Constructs

variable (format : Format) (name : String) (statements : List String) (html : String)

/-- A body as an expression is the direct translation's. -/
theorem expression_written :
    Body.expression format ⟨name, written statements, html⟩ =
      emitExpression format statements html := by
  unfold Body.expression emitExpression
  simp only [Body.code, map_text_written, all_written]
  by_cases h : statements = []
  · rw [if_pos h, if_pos (by rw [h]; rfl)]
    rfl
  · have hsome : ¬(written statements).isEmpty = true := by simpa [written] using h
    rw [if_neg h, if_neg hsome]
    -- in the two other forms the literal is the last item of a list
    simp only [intercalate_concat_of_ne_nil h, String.append_assoc]
    rfl

/-- An iteration is the direct translation's. -/
theorem eachText_written (object value : String) (key : Option String) :
    eachText format object value key ⟨name, written statements, html⟩ =
      emitEach format object value key statements html := by
  unfold eachText emitEach
  simp only [Body.code, map_text_written]
  cases key <;> rfl

/-- A branching is the direct translation's, with a text for the branch that is not there. -/
theorem branchText_written (test : String) (alternate : Option Body) :
    branchText format test ⟨name, written statements, html⟩ alternate =
      emitBranch format test (emitExpression format statements html)
        (alternate.elim format.options.otherwise (Body.expression format)) := by
  rw [branchText, expression_written]
  rfl

/-- The use of a mixin is the direct translation's. -/
theorem mixinText_written (attributes : List Attribute) :
    mixinText format (.call attributes) ⟨name, written statements, html⟩ =
      emitCall format name attributes statements html := by
  unfold mixinText emitCall
  simp only [expression_written]
  rfl

end Constructs

/-- A body as a function depends on its name and its texts alone. -/
theorem function_of_texts (format : Format) {body : Body} {name html : String}
    {statements : List String} (hname : body.name = name)
    (hcode : body.statements.map Written.text = statements) (hhtml : body.html = html)
    (args : String) :
    body.function format args = emitFunction format name args statements html := by
  subst hname hcode hhtml
  rfl

/-! ## Marks are emitted one by one -/

/-- The text of a mark in a template literal. -/
def Mark.toSource (format : Format) : Mark → String
  | .markup value => value
  | .text value => Text.escapeTemplate value
  | .slot piece => substitution (piece.toSource format)

/-- The text of marks in a template literal. -/
def marksText (format : Format) (marks : List Mark) : String :=
  String.join (marks.map (Mark.toSource format))

/-- No marks have no text. -/
@[simp] theorem marksText_nil (format : Format) : marksText format [] = "" := by
  simp [marksText]

/-- Marks are written one after the other. -/
@[simp] theorem marksText_cons (format : Format) (mark : Mark) (marks : List Mark) :
    marksText format (mark :: marks) = mark.toSource format ++ marksText format marks := by
  simp [marksText]

/-- The text of two lists of marks. -/
@[simp] theorem marksText_append (format : Format) (xs ys : List Mark) :
    marksText format (xs ++ ys) = marksText format xs ++ marksText format ys := by
  induction xs with
  | nil => simp
  | cons x xs ih => rw [List.cons_append, marksText_cons, ih, marksText_cons, String.append_assoc]

/-- Quasis and slots that are cut out of the marks give the marks back when they are interleaved. -/
theorem join_interleave_marks (format : Format) (pending : String) (marks : List Mark) :
    String.join (interleave (finished pending marks ++ [remaining pending marks])
      (slotsOf format (slotsIn marks))) = pending ++ marksText format marks := by
  induction marks generalizing pending with
  | nil => simp [finished, remaining, slotsIn, slotsOf, interleave]
  | cons mark marks ih =>
      cases mark with
      | markup text =>
          rw [finished, remaining, slotsIn, ih, marksText_cons, String.append_assoc]
          · rfl
          · simp
      | text text =>
          rw [finished, remaining, slotsIn, ih, marksText_cons, String.append_assoc]
          · rfl
          · simp
      | slot piece =>
          -- the slot closes what is pending, and the rest starts with nothing
          rw [finished, remaining, slotsIn, slotsOf_eq_map, List.map_cons, ← slotsOf_eq_map,
            List.cons_append, interleave, marksText_cons]
          simp only [String.join_cons, ih "", String.empty_append, Mark.toSource, substitution,
            String.append_assoc]

/-- Sources are written as they are. -/
theorem statementsOf_sources (format : Format) (statements : List String) :
    statementsOf format (statements.map Piece.source) = written statements := by
  induction statements with
  | nil => rfl
  | cons text statements ih => simp [statementsOf, ih, written]

/-- An enclosed body has its sources as statements, and the text of its marks between the
backticks. -/
theorem bodyOf_enclosed (format : Format) (name : String) (statements : List String)
    (marks : List Mark) :
    bodyOf format (enclosed name statements marks) =
      ⟨name, written statements, marksText format marks⟩ := by
  rw [enclosed, bodyOf, statementsOf_sources, join_interleave_marks, String.empty_append]

/-- An attribute in a tag is written after a space, in the form that it also has as markup. -/
theorem marksText_attribute (format : Format) (a : Attribute) :
    marksText format a.marks = " " ++ a.markup := by
  obtain ⟨name, content⟩ := a
  -- a slot opens its own substitution, after the equals sign
  have hopen : "=$\x7b" = "=" ++ "$\x7b" := rfl
  cases content <;>
    simp [Attribute.marks, Attribute.markup, Mark.toSource, Piece.toSource, substitution, hopen,
      String.append_assoc, -String.reduceAppend]

/-- So are all attributes of a tag. -/
theorem marksText_attributes (format : Format) (attributes : List Attribute) :
    marksText format (attributes.flatMap Attribute.marks) =
      String.join (attributes.map fun a => " " ++ a.markup) := by
  induction attributes with
  | nil => simp
  | cons a attributes ih => simp [marksText_attribute, ih]

/-! ## Compiled trees read like the direct translation -/

section

variable (format : Format) (name : String)

mutual

/-- The marks of a node read like its direct translation. -/
theorem marksText_marks (seen : Nat) (node : Markup.Node) :
    marksText format (marks { name, options := format.options } seen node) =
      emit format name seen node := by
  match node with
  | .block nodes =>
      rw [marks, emit]
      exact marksText_marksAll seen nodes
  | .doctype value => simp [marks, emit, Mark.toSource]
  | .text value => simp [marks, emit, Mark.toSource]
  | .code value true => simp [marks, emit, Mark.toSource, Piece.toSource]
  | .code value false => simp [marks, emit]
  | .tag tagName attributes children true =>
      simp [marks, emit, Mark.toSource, marksText_attributes, String.append_assoc]
  | .tag tagName attributes children false =>
      have ih := marksText_marksBody seen children
      simp [marks, emit, Mark.toSource, marksText_attributes, ih, String.append_assoc]
  | .each _ _ _ none => simp [marks, emit]
  | .each object value key (some body) =>
      have ih := marksText_marksAll seen body
      simp [marks, emit, Mark.toSource, Piece.toSource, Node.toSource, bodyOf_enclosed, ih,
        eachText_written]
  | .conditional test consequent alternate =>
      -- both branches, the alternate with the files of the consequent counted
      have ihc := marksText_marksAll seen consequent
      have iha :=
        alternateOf_alternateBlock (seen + (includedIn (visitedAll consequent)).length) alternate
      simp [marks, emit, Mark.toSource, Piece.toSource, Node.toSource, bodyOf_enclosed, ihc, iha,
        branchText_written]
  | .mixin _ _ _ false _ => simp [marks, emit]
  | .mixin mixinName args body true attributes =>
      have ih := marksText_marksBody seen body
      simp [marks, emit, Mark.toSource, Piece.toSource, Node.toSource, bodyOf_enclosed, ih,
        mixinText_written]
  | .rawInclude path => simp [marks, emit, Mark.toSource, Piece.toSource, includeName]
  | .unsupported kind => simp [marks, emit]

/-- The same for a list of nodes. -/
theorem marksText_marksAll (seen : Nat) (nodes : List Markup.Node) :
    marksText format (marksAll { name, options := format.options } seen nodes) =
      emitAll format name seen nodes := by
  match nodes with
  | [] => simp [marksAll, emitAll]
  | node :: nodes =>
      rw [marksAll, emitAll, marksText_append, marksText_marks seen node,
        marksText_marksAll _ nodes]

/-- The same for a body that may not be there. -/
theorem marksText_marksBody (seen : Nat) (body : Option (List Markup.Node)) :
    marksText format (marksBody { name, options := format.options } seen body) =
      emitBody format name seen body := by
  match body with
  | none => simp [marksBody, emitBody]
  | some nodes => exact marksText_marksAll seen nodes

/-- The block of an alternate is written like the alternate's direct translation. -/
theorem alternateOf_alternateBlock (seen : Nat) (alternate : Option Markup.Node) :
    (alternateOf format (alternateBlock { name, options := format.options } seen alternate)).elim
        format.options.otherwise (Body.expression format) =
      emitAlternate format name seen alternate := by
  match alternate with
  | none => rfl
  | some node =>
      rw [alternateBlock, alternateOf, bodyOf_enclosed, marksText_marks seen node, Option.elim_some,
        expression_written, emitAlternate]

end

mutual

/-- What a node hoists is written like the statements of its direct translation. -/
theorem map_toSource_hoisted (nested : Bool) (seen : Nat) (node : Markup.Node) :
    (hoisted { name, options := format.options } nested seen node).map (Piece.toSource format) =
      emitHoisted format name nested seen node := by
  match node with
  | .block nodes => exact map_toSource_hoistedAll nested seen nodes
  | .doctype value => rfl
  | .text value => rfl
  | .code value true => rfl
  | .code value false => cases nested <;> rfl
  | .tag _ _ children true => rfl
  | .tag _ _ children false => exact map_toSource_hoistedBody nested seen children
  | .each _ _ _ body => exact map_toSource_hoistedBody true seen body
  | .conditional _ consequent alternate =>
      rw [hoisted, emitHoisted, List.map_append, map_toSource_hoistedAll true seen consequent,
        map_toSource_hoistedAlternate _ alternate]
  | .mixin mixinName args body false _ =>
      -- what the body hoists comes first, then the function of the definition itself
      rw [hoisted, emitHoisted, List.map_append, map_toSource_hoistedBody true seen body,
        List.map_singleton, Piece.toSource, Node.toSource, bodyOf_enclosed, marksText_marksBody,
        mixinText, function_of_texts format rfl (map_text_written _) rfl]
  | .mixin _ _ body true _ => exact map_toSource_hoistedBody true seen body
  | .rawInclude path => rfl
  | .unsupported kind => rfl

/-- The same for a list of nodes. -/
theorem map_toSource_hoistedAll (nested : Bool) (seen : Nat) (nodes : List Markup.Node) :
    (hoistedAll { name, options := format.options } nested seen nodes).map (Piece.toSource format) =
      emitHoistedAll format name nested seen nodes := by
  match nodes with
  | [] => rfl
  | node :: nodes =>
      rw [hoistedAll, emitHoistedAll, List.map_append, map_toSource_hoisted nested seen node,
        map_toSource_hoistedAll nested _ nodes]

/-- The same for a body that may not be there. -/
theorem map_toSource_hoistedBody (nested : Bool) (seen : Nat) (body : Option (List Markup.Node)) :
    (hoistedBody { name, options := format.options } nested seen body).map (Piece.toSource format) =
      emitHoistedBody format name nested seen body := by
  match body with
  | none => rfl
  | some nodes => exact map_toSource_hoistedAll nested seen nodes

/-- The same for a branch that may not be there. -/
theorem map_toSource_hoistedAlternate (seen : Nat) (alternate : Option Markup.Node) :
    (hoistedAlternate { name, options := format.options } seen alternate).map
        (Piece.toSource format) =
      emitHoistedAlternate format name seen alternate := by
  match alternate with
  | none => rfl
  | some node => exact map_toSource_hoisted true seen node

end

/-- The literal of a compiled template has the text of the direct translation. -/
theorem html_rootOf (tree : Markup.Node) :
    (rootOf tree name format.options).block.html format = emit format name 0 tree := by
  simp only [rootOf, enclosed, Block.html, bodyOf, join_interleave_marks, String.empty_append,
    marksText_marks]

/-- The function of a compiled template is that of the direct translation. -/
theorem function_rootOf (args : String) (tree : Markup.Node) :
    (rootOf tree name format.options).function format args =
      emitTemplate format name args tree := by
  refine function_of_texts format rfl ?_ (html_rootOf format name tree) args
  simp only [rootOf, bodyOf, text_statementsOf, map_toSource_hoisted]

end

/-- Compiling a tree and writing its source out gives the text of the direct translation, for the
literal alone, for the function and for the module; or the first visited node that cannot be
compiled is refused. -/
theorem compileTree_emits (tree : Markup.Node) (tag name : String) (options : Options) :
    match unsupportedIn (visited tree) with
    | kind :: _ => compileTree tree name options = .error (.unhandledNode kind)
    | [] => ∃ root, compileTree tree name options = .ok root ∧
        root.block.html ⟨tag, options⟩ = emit ⟨tag, options⟩ name 0 tree ∧
        ∀ args, root.function ⟨tag, options⟩ args = emitTemplate ⟨tag, options⟩ name args tree ∧
          root.moduleSource ⟨tag, options⟩ args =
            emitModule ⟨tag, options⟩ (importLines 0 (includedIn (visited tree)))
              (emitTemplate ⟨tag, options⟩ name args tree) := by
  have hcompile := compileTree_eq tree name options
  cases h : unsupportedIn (visited tree) with
  | cons kind kinds => rw [hcompile, h]; rfl
  | nil =>
      rw [h] at hcompile
      have hfunction := fun args => function_rootOf ⟨tag, options⟩ name args tree
      refine ⟨_, hcompile, html_rootOf ⟨tag, options⟩ name tree, fun args => ⟨hfunction args, ?_⟩⟩
      rw [Root.moduleSource, hfunction]
      rfl

end Taglit.Compiled
