import Taglit.Compiled.Lower
import Taglit.Proofs.Markup.Visited

/-!
# What a pass adds to its draft

Compiling a node only ever adds to the draft at hand.  A `Yield` says what it adds: the marks drawn
into the block, the statements of the body, what is hoisted into the template, and the files
included.  The yield of a node is given by recursion on the tree alone (`marks`, `hoisted`), and
depends on the draft through nothing but the number of files included before.

`lower_eq` says that compiling a node either refuses the first visited node of a kind that cannot be
compiled, or extends the draft by the yield of the node.
-/

namespace Taglit.Compiled

open Taglit.Output (Options)
open Taglit.Markup.Node (unsupportedIn includedIn visited visitedAll visitedBody visitedAlternate
  leading leadingAll leadingBody)

/-! ## Marks -/

/-- One thing drawn into a block: markup as it is, text that is to be escaped, or a slot. -/
inductive Mark where
  | markup (text : String)
  | text (text : String)
  | slot (piece : Piece Node)

/-- The quasis that the slots among the marks finish, if `pending` was written before. -/
def finished (pending : String) : List Mark → List String
  | [] => []
  | .markup text :: marks => finished (pending ++ text) marks
  | .text text :: marks => finished (pending ++ Text.escapeTemplate text) marks
  | .slot _ :: marks => pending :: finished "" marks

/-- What is pending after the marks, if `pending` was written before. -/
def remaining (pending : String) : List Mark → String
  | [] => pending
  | .markup text :: marks => remaining (pending ++ text) marks
  | .text text :: marks => remaining (pending ++ Text.escapeTemplate text) marks
  | .slot _ :: marks => remaining "" marks

/-- The slots among the marks. -/
def slotsIn : List Mark → List (Piece Node)
  | [] => []
  | .slot piece :: marks => piece :: slotsIn marks
  | _ :: marks => slotsIn marks

/-- The quasis that marks after marks finish. -/
theorem finished_append (pending : String) (xs ys : List Mark) :
    finished pending (xs ++ ys) = finished pending xs ++ finished (remaining pending xs) ys := by
  fun_induction finished pending xs with
  | case1 => rfl
  | case2 pending text marks ih => exact ih
  | case3 pending text marks ih => exact ih
  | case4 pending piece marks ih => exact congrArg (pending :: ·) ih

/-- What is pending after marks after marks. -/
theorem remaining_append (pending : String) (xs ys : List Mark) :
    remaining pending (xs ++ ys) = remaining (remaining pending xs) ys := by
  fun_induction remaining pending xs with
  | case1 => rfl
  | case2 pending text marks ih => exact ih
  | case3 pending text marks ih => exact ih
  | case4 pending piece marks ih => exact ih

/-- The slots among marks after marks. -/
theorem slotsIn_append (xs ys : List Mark) : slotsIn (xs ++ ys) = slotsIn xs ++ slotsIn ys := by
  fun_induction slotsIn xs with
  | case1 => rfl
  | case2 piece marks ih => exact congrArg (piece :: ·) ih
  | case3 mark marks hmark ih =>
      rw [← ih]
      cases mark with
      | slot piece => exact absurd rfl (hmark piece)
      | markup text => rfl
      | text text => rfl

/-- The marks of an attribute in a tag. -/
def Attribute.marks (a : Attribute) : List Mark :=
  .markup (" " ++ a.name) :: match a.content with
    | .bare => []
    | .static text => [.markup "=\"", .text text, .markup "\""]
    | .code source => [.markup "=", .slot (.source source)]

/-- The block of a body with the given statements and marks. -/
def enclosed (name : String) (statements : List String) (marks : List Mark) : Block Node :=
  { name
    code := statements.map Piece.source
    quasis := finished "" marks ++ [remaining "" marks]
    slots := slotsIn marks }

/-! ## Yields of markup trees -/

/-- The name under which the `number`-th included file is imported. -/
def includeName (number : Nat) : String :=
  "__include$" ++ toString number

/-- The lines that import files, if `seen` files were included before. -/
def importLines (seen : Nat) : List String → List String
  | [] => []
  | path :: paths =>
    ("import " ++ includeName (seen + 1) ++ " from " ++ Json.writeText path) ::
      importLines (seen + 1) paths

/-- Files after files are numbered on. -/
theorem importLines_append (seen : Nat) (xs ys : List String) :
    importLines seen (xs ++ ys) = importLines seen xs ++ importLines (seen + xs.length) ys := by
  induction xs generalizing seen with
  | nil => rfl
  | cons x xs ih =>
      simp only [List.cons_append, importLines, ih, List.length_cons]
      rw [Nat.add_right_comm, Nat.add_assoc]

mutual

/-- The marks of a node, if `seen` files were included before it. -/
def marks (scope : Scope) (seen : Nat) : Markup.Node → List Mark
  | .block nodes => marksAll scope seen nodes
  | .doctype value => [.text ("<!DOCTYPE " ++ value ++ ">")]
  | .text value => [.text value]
  | .code value true => [.slot (.source value)]
  | .code _ false => []
  | .tag name attributes children selfClosing =>
    .markup ("<" ++ name) ::
      ((compileAttributes scope.options attributes).flatMap Attribute.marks ++
      if selfClosing then [.markup "/>"]
      else .markup ">" :: (marksBody scope seen children ++ [.markup ("</" ++ name ++ ">")]))
  | .each _ _ _ none => []
  | .each object value key (some body) =>
    [.slot (.node (.each object value key
      (enclosed scope.name (leadingAll body) (marksAll scope seen body))))]
  | .conditional test consequent alternate =>
    -- the consequent comes first, so the alternate counts the files included there
    [.slot (.node (.condition test
      (alternateBlock scope (seen + (includedIn (visitedAll consequent)).length) alternate)
      (enclosed scope.name (leadingAll consequent) (marksAll scope seen consequent))))]
  | .mixin _ _ _ false _ => []
  | .mixin name _ body true attributes =>
    [.slot (.node (.mixin (.call (compileAttributes scope.options attributes))
      (enclosed name (leadingBody body) (marksBody scope seen body))))]
  | .rawInclude _ => [.slot (.source (includeName (seen + 1)))]
  | .unsupported _ => []

/-- The marks of a list of nodes. -/
def marksAll (scope : Scope) (seen : Nat) : List Markup.Node → List Mark
  | [] => []
  | node :: nodes =>
    marks scope seen node ++ marksAll scope (seen + (includedIn (visited node)).length) nodes

/-- The marks of a body that may not be there. -/
def marksBody (scope : Scope) (seen : Nat) : Option (List Markup.Node) → List Mark
  | none => []
  | some nodes => marksAll scope seen nodes

/-- The block of a branch that may not be there. -/
def alternateBlock (scope : Scope) (seen : Nat) : Option Markup.Node → Option (Block Node)
  | none => none
  | some node => some (enclosed scope.name (leading node) (marks scope seen node))

end

mutual

/-- What a node adds to the statements of the template, if `seen` files were included before it: the
definitions of mixins in it, and its statements unless it stands in the body of something. -/
def hoisted (scope : Scope) (nested : Bool) (seen : Nat) : Markup.Node → List (Piece Node)
  | .block nodes => hoistedAll scope nested seen nodes
  | .code value false => if nested then [] else [.source value]
  | .tag _ _ children selfClosing =>
    if selfClosing then [] else hoistedBody scope nested seen children
  | .each _ _ _ body => hoistedBody scope true seen body
  | .conditional _ consequent alternate =>
    hoistedAll scope true seen consequent ++
      hoistedAlternate scope (seen + (includedIn (visitedAll consequent)).length) alternate
  | .mixin name args body false _ =>
    -- inner definitions first
    hoistedBody scope true seen body ++
      [.node (.mixin (.definition args)
        (enclosed name (leadingBody body) (marksBody scope seen body)))]
  | .mixin _ _ body true _ => hoistedBody scope true seen body
  | _ => []

/-- What a list of nodes adds to the statements of the template. -/
def hoistedAll (scope : Scope) (nested : Bool) (seen : Nat) : List Markup.Node → List (Piece Node)
  | [] => []
  | node :: nodes =>
    hoisted scope nested seen node ++
      hoistedAll scope nested (seen + (includedIn (visited node)).length) nodes

/-- What a body that may not be there adds to the statements of the template. -/
def hoistedBody (scope : Scope) (nested : Bool) (seen : Nat) :
    Option (List Markup.Node) → List (Piece Node)
  | none => []
  | some nodes => hoistedAll scope nested seen nodes

/-- What a branch that may not be there adds to the statements of the template. -/
def hoistedAlternate (scope : Scope) (seen : Nat) : Option Markup.Node → List (Piece Node)
  | none => []
  | some node => hoisted scope true seen node

end

/-- What a part of a tree adds to a draft: the marks drawn into the block, the statements of the
block, what goes to the statements of the template, and the paths of the files included. -/
structure Yield where
  marks : List Mark := []
  statements : List String := []
  hoisted : List (Piece Node) := []
  included : List String := []

namespace Yield

/-- One yield after the other. -/
def append (y z : Yield) : Yield :=
  ⟨y.marks ++ z.marks, y.statements ++ z.statements, y.hoisted ++ z.hoisted,
    y.included ++ z.included⟩

instance : Append Yield := ⟨append⟩

/-- One yield after the other, part by part. -/
theorem append_def (y z : Yield) :
    y ++ z = ⟨y.marks ++ z.marks, y.statements ++ z.statements, y.hoisted ++ z.hoisted,
      y.included ++ z.included⟩ := rfl

end Yield

/-- The yield of a node; `nested` if it stands in the body of something. -/
def yieldOf (scope : Scope) (nested : Bool) (seen : Nat) (node : Markup.Node) : Yield where
  marks := marks scope seen node
  statements := if nested then leading node else []
  hoisted := hoisted scope nested seen node
  included := includedIn (visited node)

/-- The yield of a list of nodes. -/
def yieldOfAll (scope : Scope) (nested : Bool) (seen : Nat) (nodes : List Markup.Node) : Yield where
  marks := marksAll scope seen nodes
  statements := if nested then leadingAll nodes else []
  hoisted := hoistedAll scope nested seen nodes
  included := includedIn (visitedAll nodes)

/-- The yield of a body that may not be there. -/
def yieldOfBody (scope : Scope) (nested : Bool) (seen : Nat) (body : Option (List Markup.Node)) :
    Yield where
  marks := marksBody scope seen body
  statements := if nested then leadingBody body else []
  hoisted := hoistedBody scope nested seen body
  included := includedIn (visitedBody body)

/-- The yields of a list follow each other, each one counting the files that were included
before. -/
theorem yieldOfAll_cons (scope : Scope) (nested : Bool) (seen : Nat) (node : Markup.Node)
    (nodes : List Markup.Node) :
    yieldOfAll scope nested seen (node :: nodes) = yieldOf scope nested seen node ++
      yieldOfAll scope nested (seen + (includedIn (visited node)).length) nodes := by
  cases nested <;> simp [yieldOfAll, yieldOf, Yield.append_def, marksAll, hoistedAll, leadingAll,
    visitedAll]

/-! ## Drafts that are extended -/

namespace Draft

/-- A draft with a yield added. -/
def extend (draft : Draft) (y : Yield) : Draft where
  pending := remaining draft.pending y.marks
  target :=
    { draft.target with
      code := draft.target.code ++ y.statements.map Piece.source
      quasis := draft.target.quasis ++ finished draft.pending y.marks
      slots := draft.target.slots ++ slotsIn y.marks }
  hoisted := draft.hoisted ++ y.hoisted
  imports := draft.imports ++ importLines draft.includes y.included
  includes := draft.includes + y.included.length

/-- The files that a yield includes are counted. -/
@[simp] theorem includes_extend (draft : Draft) (y : Yield) :
    (draft.extend y).includes = draft.includes + y.included.length := rfl

/-- Adding nothing leaves a draft as it is. -/
@[simp] theorem extend_nil (draft : Draft) : draft.extend {} = draft := by
  simp [extend, remaining, finished, slotsIn, importLines]

/-- Adding one yield after the other is to add the two together. -/
theorem extend_extend (draft : Draft) (y z : Yield) :
    (draft.extend y).extend z = draft.extend (y ++ z) := by
  simp only [extend, Yield.append_def, remaining_append, finished_append, slotsIn_append,
    importLines_append, List.append_assoc, List.map_append, List.length_append, Nat.add_assoc]

/-- A draft with nothing but marks added. -/
def draw (draft : Draft) (marks : List Mark) : Draft :=
  draft.extend { marks }

/-- Drawing marks after marks. -/
theorem draw_draw (draft : Draft) (xs ys : List Mark) :
    (draft.draw xs).draw ys = draft.draw (xs ++ ys) :=
  extend_extend ..

/-- To write is to draw markup. -/
theorem write_eq_draw (draft : Draft) (text : String) :
    draft.write text = draft.draw [.markup text] := by
  simp [write, draw, extend, remaining, finished, slotsIn, importLines]

/-- To write a text is to draw it. -/
theorem writeText_eq_draw (draft : Draft) (text : String) :
    draft.writeText text = draft.draw [.text text] := by
  simp [writeText, write, draw, extend, remaining, finished, slotsIn, importLines]

/-- To push a slot is to draw it. -/
theorem pushSlot_eq_draw (draft : Draft) (piece : Piece Node) :
    draft.pushSlot piece = draft.draw [.slot piece] := by
  simp [pushSlot, Block.pushSlot, draw, extend, remaining, finished, slotsIn, importLines]

/-- A slot after a yield is one more mark. -/
theorem pushSlot_extend (draft : Draft) (y : Yield) (piece : Piece Node) :
    (draft.extend y).pushSlot piece = draft.extend (y ++ { marks := [.slot piece] }) := by
  rw [pushSlot_eq_draw, draw, extend_extend]

/-- To write an attribute is to draw its marks. -/
theorem writeAttribute_eq_draw (draft : Draft) (a : Attribute) :
    draft.writeAttribute a = draft.draw a.marks := by
  obtain ⟨name, content⟩ := a
  cases content <;>
    simp only [writeAttribute, Attribute.marks, write_eq_draw, writeText_eq_draw, pushSlot_eq_draw,
      draw_draw] <;> rfl

/-- To write attributes is to draw the marks of all of them. -/
theorem foldl_writeAttribute_eq_draw (draft : Draft) (attributes : List Attribute) :
    attributes.foldl writeAttribute draft = draft.draw (attributes.flatMap Attribute.marks) := by
  induction attributes generalizing draft with
  | nil => exact (extend_nil draft).symm
  | cons a attributes ih =>
      rw [List.foldl_cons, ih, writeAttribute_eq_draw, draw_draw, List.flatMap_cons]

/-- A statement goes to the block or to the template. -/
theorem pushStatement_eq_extend (draft : Draft) (nested : Bool) (value : String) :
    draft.pushStatement nested (.source value) = draft.extend
      { statements := if nested then [value] else []
        hoisted := if nested then [] else [.source value] } := by
  cases nested <;>
    simp [pushStatement, Block.pushStatement, extend, remaining, finished, slotsIn, importLines]

/-- What is hoisted goes to the template. -/
theorem hoist_eq_extend (draft : Draft) (piece : Piece Node) :
    draft.hoist piece = draft.extend { hoisted := [piece] } := by
  simp [hoist, extend, remaining, finished, slotsIn, importLines]

/-- An included file is a slot with its name, and one more file. -/
theorem pushInclude_eq_extend (draft : Draft) (path : String) :
    draft.pushInclude path = draft.extend
      { marks := [.slot (.source (includeName (draft.includes + 1)))], included := [path] } := by
  simp [pushInclude, pushSlot, Block.pushSlot, extend, remaining, finished, slotsIn, importLines,
    includeName]

end Draft

/-! ## Compilation extends the draft -/

/-- A result that is refused if there are nodes of kinds that cannot be compiled; the first one is
named. -/
def attempt {α : Type} (kinds : List String) (result : α) : Except Error α :=
  match kinds with
  | [] => .ok result
  | kind :: _ => .error (.unhandledNode kind)

/-- Without such kinds there is the result. -/
@[simp] theorem attempt_nil {α : Type} (result : α) : attempt [] result = .ok result := rfl

/-- An attempt after an attempt: the first refusal counts. -/
theorem attempt_bind {α β : Type} (kinds more : List String) (result : α) (f : α → Except Error β)
    (next : β) (hf : f result = attempt more next) :
    (attempt kinds result >>= f) = attempt (kinds ++ more) next := by
  cases kinds with
  | nil => exact hf
  | cons kind kinds => rfl

/-- What is made of the result is attempted for the same kinds. -/
theorem attempt_bind_pure {α β : Type} (kinds : List String) (result : α) (f : α → β) :
    (attempt kinds result >>= fun a => pure (f a)) = attempt kinds (f result) := by
  cases kinds <;> rfl

/-- If filling a block extends the draft by `y`, then enclosing gives the block of `y`, and what `y`
hoists and includes stays with the draft. -/
theorem Draft.enclose_eq {draft : Draft} {name : String} {fill : Draft → Except Error Draft}
    {kinds : List String} {y : Yield}
    (hfill : fill { draft with pending := "", target := { name } } =
      attempt kinds ({ draft with pending := "", target := { name } }.extend y)) :
    draft.enclose name fill = attempt kinds
      (enclosed name y.statements y.marks,
        draft.extend { hoisted := y.hoisted, included := y.included }) := by
  rw [enclose, hfill]
  cases kinds with
  | nil =>
      simp [attempt, extend, enclosed, Block.close, remaining, finished, slotsIn, bind, Except.bind,
        pure, Except.pure]
  | cons kind kinds => rfl

mutual

/-- Compiling a node refuses the first visited node that cannot be compiled, or extends the draft by
the yield of the node. -/
theorem lower_eq (scope : Scope) (nested : Bool) (node : Markup.Node) (draft : Draft) :
    lower scope nested node draft = attempt (unsupportedIn (visited node))
      (draft.extend (yieldOf scope nested draft.includes node)) := by
  match node with
  | .block nodes =>
      rw [lower, lowerAll_eq scope nested nodes draft]
      rfl
  | .doctype value =>
      rw [lower, Draft.writeText_eq_draw]
      cases nested <;> rfl
  | .text value =>
      rw [lower, Draft.writeText_eq_draw]
      cases nested <;> rfl
  | .code value true =>
      rw [lower, Draft.pushSlot_eq_draw]
      cases nested <;> rfl
  | .code value false =>
      rw [lower, Draft.pushStatement_eq_extend]
      rfl
  | .tag name attributes children true =>
      rw [lower, Draft.write_eq_draw, Draft.foldl_writeAttribute_eq_draw]
      simp only [Draft.write_eq_draw, Draft.draw_draw]
      cases nested <;> rfl
  | .tag name attributes children false =>
      -- the opening tag, the children and the closing tag are one yield after the other
      rw [lower, Draft.write_eq_draw, Draft.foldl_writeAttribute_eq_draw]
      simp only [Draft.write_eq_draw, Draft.draw_draw, lowerBody_eq scope nested children,
        attempt_bind_pure, Bool.false_eq_true, if_false]
      refine congrArg (attempt _) ?_
      simp only [Draft.draw, Draft.extend_extend]
      cases nested <;> simp [Yield.append_def, yieldOf, yieldOfBody, marks, leading, hoisted,
        visited, Markup.Node.included?]
  | .each _ _ _ none =>
      rw [lower]
      cases nested <;> exact congrArg _ (Draft.extend_nil draft).symm
  | .each object value key (some body) =>
      -- the body keeps its marks and statements; the files and definitions in it go on
      rw [lower, Draft.enclose_eq (lowerAll_eq scope true body _), attempt_bind_pure]
      refine congrArg (attempt _) ?_
      rw [Draft.pushSlot_extend]
      cases nested <;> simp [Yield.append_def, yieldOf, yieldOfAll, marks, leading, hoisted,
        visited, hoistedBody, visitedBody, Markup.Node.included?]
  | .conditional test consequent alternate =>
      rw [lower, Draft.enclose_eq (lowerAll_eq scope true consequent _), visited,
        Markup.Node.unsupportedIn_cons, Markup.Node.unsupportedIn_append]
      -- the alternate continues the draft that the consequent leaves, and is refused only after it
      refine attempt_bind _ _ _ _ _ ?_
      dsimp only
      rw [lowerAlternate_eq scope alternate, attempt_bind_pure]
      refine congrArg (attempt _) ?_
      rw [Draft.extend_extend, Draft.pushSlot_extend]
      cases nested <;> simp [Yield.append_def, yieldOf, yieldOfAll, marks, leading, hoisted,
        visited, Markup.Node.included?]
  | .mixin name args body false attributes =>
      rw [lower, Draft.enclose_eq (lowerBody_eq scope true body _), attempt_bind_pure]
      refine congrArg (attempt _) ?_
      -- the definition comes after what its body hoists
      rw [Draft.hoist_eq_extend, Draft.extend_extend]
      cases nested <;> simp [Yield.append_def, yieldOf, yieldOfBody, marks, leading, hoisted,
        visited, Markup.Node.included?]
  | .mixin name args none true attributes =>
      rw [lower, Draft.pushSlot_eq_draw]
      cases nested <;> rfl
  | .mixin name args (some body) true attributes =>
      rw [lower, Draft.enclose_eq (lowerAll_eq scope true body _), attempt_bind_pure]
      refine congrArg (attempt _) ?_
      rw [Draft.pushSlot_extend]
      cases nested <;> simp [Yield.append_def, yieldOf, yieldOfAll, marks, leading, hoisted,
        visited, leadingBody, marksBody, hoistedBody, visitedBody, Markup.Node.included?]
  | .rawInclude path =>
      rw [lower, Draft.pushInclude_eq_extend]
      cases nested <;> rfl
  | .unsupported kind => rfl

/-- Compiling a list of nodes extends the draft by their yields. -/
theorem lowerAll_eq (scope : Scope) (nested : Bool) (nodes : List Markup.Node) (draft : Draft) :
    lowerAll scope nested nodes draft = attempt (unsupportedIn (visitedAll nodes))
      (draft.extend (yieldOfAll scope nested draft.includes nodes)) := by
  match nodes with
  | [] =>
      rw [lowerAll]
      cases nested <;> exact congrArg _ (Draft.extend_nil draft).symm
  | node :: nodes =>
      rw [lowerAll, lower_eq scope nested node draft, visitedAll, Markup.Node.unsupportedIn_append]
      apply attempt_bind
      -- the rest counts the files that the node has included
      rw [lowerAll_eq scope nested nodes, Draft.extend_extend, yieldOfAll_cons]
      rfl

/-- The same for a body that may not be there. -/
theorem lowerBody_eq (scope : Scope) (nested : Bool) (body : Option (List Markup.Node))
    (draft : Draft) :
    lowerBody scope nested body draft = attempt (unsupportedIn (visitedBody body))
      (draft.extend (yieldOfBody scope nested draft.includes body)) := by
  match body with
  | none =>
      rw [lowerBody]
      cases nested <;> exact congrArg _ (Draft.extend_nil draft).symm
  | some nodes => exact lowerAll_eq scope nested nodes draft

/-- The same for a branch that may not be there, which is compiled into a block of its own. -/
theorem lowerAlternate_eq (scope : Scope) (alternate : Option Markup.Node) (draft : Draft) :
    lowerAlternate scope alternate draft = attempt (unsupportedIn (visitedAlternate alternate))
      (alternateBlock scope draft.includes alternate,
        draft.extend
          { hoisted := hoistedAlternate scope draft.includes alternate
            included := includedIn (visitedAlternate alternate) }) := by
  match alternate with
  | none =>
      rw [lowerAlternate]
      exact congrArg (fun d => Except.ok (none, d)) (Draft.extend_nil draft).symm
  | some node =>
      rw [lowerAlternate, Draft.enclose_eq (lower_eq scope true node _), attempt_bind_pure]
      rfl

end

/-- The template that the yield of a whole tree makes. -/
def rootOf (tree : Markup.Node) (name : String) (options : Options) : Root where
  block :=
    { enclosed name [] (marks { name, options } 0 tree) with
      code := hoisted { name, options } false 0 tree }
  imports := importLines 0 (includedIn (visited tree))

/-- Compiling a tree refuses the first visited node that cannot be compiled, or gives the template
of the tree's yield. -/
theorem compileTree_eq (tree : Markup.Node) (name : String) (options : Options) :
    compileTree tree name options =
      attempt (unsupportedIn (visited tree)) (rootOf tree name options) := by
  rw [compileTree, lower_eq, attempt_bind_pure]
  simp [Draft.extend, Block.close, yieldOf, rootOf, enclosed]

/-- What is compiled is the template of the tree's yield, if no visited node is refused. -/
theorem compileTree_eq_ok_iff {tree : Markup.Node} {name : String} {options : Options}
    {root : Root} :
    compileTree tree name options = .ok root ↔
      unsupportedIn (visited tree) = [] ∧ root = rootOf tree name options := by
  rw [compileTree_eq]
  cases unsupportedIn (visited tree) with
  | nil => simp [eq_comm]
  | cons kind kinds => simp [attempt]

end Taglit.Compiled
