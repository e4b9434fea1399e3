import Taglit.Markup.Basic

/-!
# The nodes that a compilation visits

A compilation visits a markup tree in document order and never goes below a self-closing tag.  The
lists in this module are what later statements about compilation speak of: `visited` has all nodes
on that way, `unsupportedIn` and `includedIn` pick the kinds that cannot be compiled and the paths
of the raw includes, and `leading` has the statements of one body, that is, those which no inner
body holds.  `mem_visited_iff` says that `visited` has exactly the nodes that are reached one step
at a time.
-/

namespace Taglit.Markup.Node

/-- The kind of a node that cannot be compiled. -/
def unsupported? : Node → Option String
  | unsupported kind => some kind
  | _ => none

/-- The path of a raw include. -/
def included? : Node → Option String
  | rawInclude path => some path
  | _ => none

/-! ## All nodes on the way -/

mutual

/-- The nodes of a tree in document order, without those below a self-closing tag. -/
def visited : Node → List Node
  | block nodes => block nodes :: visitedAll nodes
  | tag name attributes children selfClosing =>
    tag name attributes children selfClosing :: if selfClosing then [] else visitedBody children
  | each object value key body => each object value key body :: visitedBody body
  | conditional test consequent alternate =>
    conditional test consequent alternate :: (visitedAll consequent ++ visitedAlternate alternate)
  | mixin name args body call attributes => mixin name args body call attributes :: visitedBody body
  | node => [node]

/-- The visited nodes of a list. -/
def visitedAll : List Node → List Node
  | [] => []
  | node :: nodes => visited node ++ visitedAll nodes

/-- The visited nodes of a body that may not be there. -/
def visitedBody : Option (List Node) → List Node
  | none => []
  | some nodes => visitedAll nodes

/-- The visited nodes of a branch that may not be there. -/
def visitedAlternate : Option Node → List Node
  | none => []
  | some node => visited node

end

/-- The nodes of two lists are visited one list after the other. -/
theorem visitedAll_append (xs ys : List Node) :
    visitedAll (xs ++ ys) = visitedAll xs ++ visitedAll ys := by
  induction xs with
  | nil => rfl
  | cons node xs ih => simp [visitedAll, ih]

/-- The kinds of the visited nodes that cannot be compiled, in document order. -/
def unsupportedIn (nodes : List Node) : List String :=
  nodes.filterMap unsupported?

/-- The paths of the visited raw includes, in document order. -/
def includedIn (nodes : List Node) : List String :=
  nodes.filterMap included?

/-- No nodes, no kinds. -/
@[simp] theorem unsupportedIn_nil : unsupportedIn [] = [] := rfl

/-- The kind of the first node, if it cannot be compiled, and those of the others. -/
@[simp] theorem unsupportedIn_cons (node : Node) (nodes : List Node) :
    unsupportedIn (node :: nodes) = node.unsupported?.toList ++ unsupportedIn nodes := by
  cases h : node.unsupported? <;> simp [unsupportedIn, h]

/-- The kinds of two lists. -/
@[simp] theorem unsupportedIn_append (xs ys : List Node) :
    unsupportedIn (xs ++ ys) = unsupportedIn xs ++ unsupportedIn ys :=
  List.filterMap_append

/-- No nodes, no paths. -/
@[simp] theorem includedIn_nil : includedIn [] = [] := rfl

/-- The path of the first node, if it is a raw include, and those of the others. -/
@[simp] theorem includedIn_cons (node : Node) (nodes : List Node) :
    includedIn (node :: nodes) = node.included?.toList ++ includedIn nodes := by
  cases h : node.included? <;> simp [includedIn, h]

/-- The paths of two lists. -/
@[simp] theorem includedIn_append (xs ys : List Node) :
    includedIn (xs ++ ys) = includedIn xs ++ includedIn ys :=
  List.filterMap_append

/-! ## Reaching nodes

The same way through the tree as a relation, one step at a time. -/

/-- A compilation of the first node goes on to the second one. -/
inductive GoesOn : Node → Node → Prop where
  | block {nodes : List Node} {inner : Node} : inner ∈ nodes → GoesOn (block nodes) inner
  | child {name : String} {attributes : List Attribute} {children : List Node} {inner : Node} :
      inner ∈ children → GoesOn (tag name attributes (some children) false) inner
  | entry {object value : String} {key : Option String} {body : List Node} {inner : Node} :
      inner ∈ body → GoesOn (each object value key (some body)) inner
  | consequent {test : String} {nodes : List Node} {alternate : Option Node} {inner : Node} :
      inner ∈ nodes → GoesOn (conditional test nodes alternate) inner
  | alternate {test : String} {nodes : List Node} {inner : Node} :
      GoesOn (conditional test nodes (some inner)) inner
  | mixin {name : String} {args : Option String} {body : List Node} {call : Bool}
      {attributes : List Attribute} {inner : Node} :
      inner ∈ body → GoesOn (mixin name args (some body) call attributes) inner

/-- A compilation of the first node comes to the second one. -/
inductive Reaches : Node → Node → Prop where
  | self {node : Node} : Reaches node node
  | step {node inner target : Node} : GoesOn node inner → Reaches inner target → Reaches node target

/-- What is visited of a list is visited of one of its nodes. -/
theorem mem_visitedAll {n : Node} {nodes : List Node} :
    n ∈ visitedAll nodes ↔ ∃ node ∈ nodes, n ∈ visited node := by
  induction nodes with
  | nil => simp [visitedAll]
  | cons node nodes ih => simp [visitedAll, ih]

/-- A compilation visits the node that it is given. -/
theorem visited_self (node : Node) : node ∈ visited node := by
  unfold visited
  split <;> simp

/-- It visits what the nodes that it goes on to would visit. -/
theorem visited_of_goesOn {node inner n : Node} (h : GoesOn node inner) (hn : n ∈ visited inner) :
    n ∈ visited node := by
  cases h with
  | block hmem | child hmem | entry hmem | mixin hmem =>
      exact List.mem_cons_of_mem _ (mem_visitedAll.mpr ⟨inner, hmem, hn⟩)
  | consequent hmem =>
      exact List.mem_cons_of_mem _ (List.mem_append_left _ (mem_visitedAll.mpr ⟨inner, hmem, hn⟩))
  | alternate => exact List.mem_cons_of_mem _ (List.mem_append_right _ hn)

/-- A node is reached from itself, and what the nodes inside reach is reached from it. -/
theorem reaches_of_mem_cons {node n : Node} {nodes : List Node}
    (hstep : ∀ inner ∈ nodes, GoesOn node inner)
    (hnodes : n ∈ visitedAll nodes → ∃ inner ∈ nodes, Reaches inner n)
    (h : n ∈ node :: visitedAll nodes) : Reaches node n := by
  rcases List.mem_cons.mp h with rfl | h
  · exact .self
  · obtain ⟨inner, hmem, hinner⟩ := hnodes h
    exact .step (hstep inner hmem) hinner

/-- A node with nothing inside reaches itself. -/
theorem reaches_of_mem_singleton {node n : Node} (h : n ∈ [node]) : Reaches node n := by
  rw [List.mem_singleton.mp h]
  exact .self

mutual

/-- What is visited is reached. -/
theorem reaches_of_mem_visited (node n : Node) (h : n ∈ visited node) : Reaches node n := by
  match node with
  | block nodes =>
      exact reaches_of_mem_cons (fun _ => .block) (reaches_of_mem_visitedAll nodes n) h
  | tag _ _ _ true => exact reaches_of_mem_singleton h
  | tag _ _ none false => exact reaches_of_mem_singleton h
  | tag _ _ (some children) false =>
      exact reaches_of_mem_cons (fun _ => .child) (reaches_of_mem_visitedAll children n) h
  | each _ _ _ none => exact reaches_of_mem_singleton h
  | each _ _ _ (some body) =>
      exact reaches_of_mem_cons (fun _ => .entry) (reaches_of_mem_visitedAll body n) h
  | conditional test consequent none =>
      rw [visited, visitedAlternate, List.append_nil] at h
      exact reaches_of_mem_cons (fun _ => .consequent) (reaches_of_mem_visitedAll consequent n) h
  | conditional test consequent (some alternate) =>
      -- the node and its consequent are one list, as if there were no alternate
      rw [visited, visitedAlternate, ← List.cons_append, List.mem_append] at h
      rcases h with h | h
      · exact reaches_of_mem_cons (fun _ => .consequent) (reaches_of_mem_visitedAll consequent n) h
      · exact .step .alternate (reaches_of_mem_visited alternate n h)
  | mixin _ _ none _ _ => exact reaches_of_mem_singleton h
  | mixin _ _ (some body) _ _ =>
      exact reaches_of_mem_cons (fun _ => .mixin) (reaches_of_mem_visitedAll body n) h
  | doctype _ => exact reaches_of_mem_singleton h
  | text _ => exact reaches_of_mem_singleton h
  | code _ _ => exact reaches_of_mem_singleton h
  | rawInclude _ => exact reaches_of_mem_singleton h
  | unsupported _ => exact reaches_of_mem_singleton h

/-- What is visited of a list is reached from one of its nodes. -/
theorem reaches_of_mem_visitedAll (nodes : List Node) (n : Node) (h : n ∈ visitedAll nodes) :
    ∃ inner ∈ nodes, Reaches inner n := by
  match nodes with
  | [] => cases h
  | node :: nodes =>
      rw [visitedAll, List.mem_append] at h
      rcases h with h | h
      · exact ⟨node, List.mem_cons_self, reaches_of_mem_visited node n h⟩
      · obtain ⟨inner, hmem, hinner⟩ := reaches_of_mem_visitedAll nodes n h
        exact ⟨inner, List.mem_cons_of_mem _ hmem, hinner⟩

end

/-- The visited nodes are those that a compilation comes to. -/
theorem mem_visited_iff {node n : Node} : n ∈ visited node ↔ Reaches node n := by
  refine ⟨reaches_of_mem_visited node n, fun h => ?_⟩
  -- from the target back to the start, one step at a time
  induction h with
  | self => exact visited_self _
  | step hstep _ ih => exact visited_of_goesOn hstep ih

/-- A kind is among those that cannot be compiled iff there is a node of it. -/
theorem mem_unsupportedIn {kind : String} {nodes : List Node} :
    kind ∈ unsupportedIn nodes ↔ unsupported kind ∈ nodes := by
  rw [unsupportedIn, List.mem_filterMap]
  constructor
  · rintro ⟨node, hmem, hkind⟩
    cases node <;> simp_all [unsupported?]
  · intro h
    exact ⟨_, h, rfl⟩

/-! ## The statements of one body -/

mutual

/-- The statements that belong to the body in which a node stands, in document order. -/
def leading : Node → List String
  | block nodes => leadingAll nodes
  | tag _ _ children selfClosing => if selfClosing then [] else leadingBody children
  | code value false => [value]
  | _ => []

/-- The statements of a list of nodes. -/
def leadingAll : List Node → List String
  | [] => []
  | node :: nodes => leading node ++ leadingAll nodes

/-- The statements of a body that may not be there. -/
def leadingBody : Option (List Node) → List String
  | none => []
  | some nodes => leadingAll nodes

end

end Taglit.Markup.Node
