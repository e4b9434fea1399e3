import Taglit.Proofs.Markup.Visited

/-!
# What stands in a body, and when it is left

The bodies of iterations, branches and mixins enclose what stands in them.  `standing` has the
visited nodes that stand in the same body as the node itself, with no inner body around them, in
document order.

A traversal *leaves* a node once all that is visited inside it is done.  `postorder` has the visited
nodes in that order, and for each whether a body is around it.
-/

namespace Taglit.Markup.Node

/-- The value of a statement. -/
def statement? : Node → Option String
  | code value false => some value
  | _ => none

/-- Whether a node is shown with a body of its own: an iteration with a body, a branching, or the
use of a mixin. -/
def enclosesBody : Node → Bool
  | each _ _ _ body => body.isSome
  | conditional .. => true
  | mixin _ _ _ call _ => call
  | _ => false

/-! ## Standing in a body -/

mutual

/-- The visited nodes that stand in the same body as the node, itself included. -/
def standing : Node → List Node
  | block nodes => block nodes :: standingAll nodes
  | tag name attributes children selfClosing =>
    tag name attributes children selfClosing :: if selfClosing then [] else standingBody children
  | node => [node]

/-- The nodes of a list, and those that stand in the same body. -/
def standingAll : List Node → List Node
  | [] => []
  | node :: nodes => standing node ++ standingAll nodes

/-- The nodes that stand in the same body as the children of a tag. -/
def standingBody : Option (List Node) → List Node
  | none => []
  | some nodes => standingAll nodes

end

mutual

/-- The statements of a body are those that stand in it. -/
theorem leading_eq (node : Node) : leading node = (standing node).filterMap statement? := by
  match node with
  | block nodes => exact leadingAll_eq nodes
  | tag _ _ _ true => rfl
  | tag _ _ children false => exact leadingBody_eq children
  | code _ true => rfl
  | code _ false => rfl
  | doctype _ => rfl
  | text _ => rfl
  | each .. => rfl
  | conditional .. => rfl
  | mixin .. => rfl
  | rawInclude _ => rfl
  | unsupported _ => rfl

/-- The same for a list of nodes. -/
theorem leadingAll_eq (nodes : List Node) :
    leadingAll nodes = (standingAll nodes).filterMap statement? := by
  match nodes with
  | [] => rfl
  | node :: nodes =>
    rw [leadingAll, standingAll, List.filterMap_append, leading_eq node, leadingAll_eq nodes]

/-- The same for a body that may not be there. -/
theorem leadingBody_eq (body : Option (List Node)) :
    leadingBody body = (standingBody body).filterMap statement? := by
  match body with
  | none => rfl
  | some nodes => exact leadingAll_eq nodes

end

/-! ## Leaving nodes -/

mutual

/-- The visited nodes of a tree in the order in which they are left, each with whether a body is
around it; `nested` if a body is around the tree. -/
def postorder (nested : Bool) : Node → List (Bool × Node)
  | block nodes => postorderAll nested nodes ++ [(nested, block nodes)]
  | tag name attributes children selfClosing =>
    (if selfClosing then [] else postorderBody nested children) ++
      [(nested, tag name attributes children selfClosing)]
  | each object value key body => postorderBody true body ++ [(nested, each object value key body)]
  | conditional test consequent alternate =>
    postorderAll true consequent ++ postorderAlternate alternate ++
      [(nested, conditional test consequent alternate)]
  | mixin name args body call attributes =>
    postorderBody true body ++ [(nested, mixin name args body call attributes)]
  | node => [(nested, node)]

/-- The visited nodes of a list in the order in which they are left. -/
def postorderAll (nested : Bool) : List Node → List (Bool × Node)
  | [] => []
  | node :: nodes => postorder nested node ++ postorderAll nested nodes

/-- The visited nodes of a body that may not be there in the order in which they are left. -/
def postorderBody (nested : Bool) : Option (List Node) → List (Bool × Node)
  | none => []
  | some nodes => postorderAll nested nodes

/-- The visited nodes of a branch that may not be there in the order in which they are left. -/
def postorderAlternate : Option Node → List (Bool × Node)
  | none => []
  | some node => postorder true node

end

/-- A node that is left last was visited first. -/
theorem perm_map_concat {node : Node} {nested : Bool} {inner : List Node}
    {entries : List (Bool × Node)} (h : (entries.map Prod.snd).Perm inner) :
    ((entries ++ [(nested, node)]).map Prod.snd).Perm (node :: inner) := by
  rw [List.map_append]
  exact (List.perm_append_singleton _ _).trans (h.cons node)

mutual

/-- The nodes that are left are those that are visited. -/
theorem postorder_perm (nested : Bool) (node : Node) :
    ((postorder nested node).map Prod.snd).Perm (visited node) := by
  match node with
  | block nodes => exact perm_map_concat (postorderAll_perm nested nodes)
  | tag _ _ _ true => exact .refl _
  | tag _ _ children false => exact perm_map_concat (postorderBody_perm nested children)
  | each _ _ _ body => exact perm_map_concat (postorderBody_perm true body)
  | conditional _ consequent alternate =>
      refine perm_map_concat ?_
      rw [List.map_append]
      -- the consequent is left before the alternate, as it is visited before
      exact (postorderAll_perm true consequent).append (postorderAlternate_perm alternate)
  | mixin _ _ body _ _ => exact perm_map_concat (postorderBody_perm true body)
  | doctype _ => exact .refl _
  | text _ => exact .refl _
  | code _ _ => exact .refl _
  | rawInclude _ => exact .refl _
  | unsupported _ => exact .refl _

/-- The same for a list of nodes. -/
theorem postorderAll_perm (nested : Bool) (nodes : List Node) :
    ((postorderAll nested nodes).map Prod.snd).Perm (visitedAll nodes) := by
  match nodes with
  | [] => exact .refl _
  | node :: nodes =>
      rw [postorderAll, visitedAll, List.map_append]
      exact (postorder_perm nested node).append (postorderAll_perm nested nodes)

/-- The same for a body that may not be there. -/
theorem postorderBody_perm (nested : Bool) (body : Option (List Node)) :
    ((postorderBody nested body).map Prod.snd).Perm (visitedBody body) := by
  match body with
  | none => exact .refl _
  | some nodes => exact postorderAll_perm nested nodes

/-- The same for a branch that may not be there. -/
theorem postorderAlternate_perm (alternate : Option Node) :
    ((postorderAlternate alternate).map Prod.snd).Perm (visitedAlternate alternate) := by
  match alternate with
  | none => exact .refl _
  | some node => exact postorder_perm true node

end

end Taglit.Markup.Node
