import Taglit.Proofs.Compiled.Yield

/-!
# What is refused

A tree cannot be compiled if and only if its compilation comes to a node of a kind that cannot be
compiled, and then the first such node is named.  Nothing else is ever refused, and neither the name
of the template nor its options have a say in it.
-/

namespace Taglit.Compiled

open Taglit.Output (Options)
open Taglit.Markup.Node (unsupportedIn visited Reaches mem_unsupportedIn mem_visited_iff)

/-- Whether an attempt is refused, and why, does not depend on its result. -/
theorem map_attempt {α β : Type} (f : α → β) (kinds : List String) (result : α) :
    (attempt kinds result).map f = attempt kinds (f result) := by
  cases kinds <;> rfl

/-- An attempt is refused for the first of its kinds, if there is one. -/
theorem attempt_eq_error_iff {α : Type} {kinds : List String} {result : α} {e : Error} :
    attempt kinds result = .error e ↔
      ∃ kind rest, kinds = kind :: rest ∧ e = .unhandledNode kind := by
  cases kinds with
  | nil => simp
  | cons kind kinds => simp [attempt, eq_comm]

/-- The refused kinds are those of the nodes that a compilation comes to. -/
theorem mem_unsupportedIn_visited {tree : Markup.Node} {kind : String} :
    kind ∈ unsupportedIn (visited tree) ↔ Reaches tree (.unsupported kind) := by
  rw [mem_unsupportedIn, mem_visited_iff]

/-- A tree is compiled if no node of a kind that cannot be compiled is visited, and else the kind of
the first such node is the reason why not.  There is no other reason, and the outcome is the same
for every name and all options. -/
theorem compileTree_refuses_first (tree : Markup.Node) (name : String) (options : Options) :
    (match unsupportedIn (visited tree) with
      | [] => ∃ root, compileTree tree name options = .ok root
      | kind :: _ => compileTree tree name options = .error (.unhandledNode kind)) ∧
    (∀ kind, kind ∈ unsupportedIn (visited tree) ↔ Reaches tree (.unsupported kind)) ∧
    (∀ e, compileTree tree name options = .error e ↔
      ∃ kind rest, unsupportedIn (visited tree) = kind :: rest ∧ e = .unhandledNode kind) ∧
    ∀ (otherName : String) (otherOptions : Options),
      (compileTree tree name options).map (fun _ => ()) =
        (compileTree tree otherName otherOptions).map fun _ => () := by
  refine ⟨?_, fun kind => mem_unsupportedIn_visited, fun e => ?_, fun otherName otherOptions => ?_⟩
  · have hcompile := compileTree_eq tree name options
    cases hkinds : unsupportedIn (visited tree) with
    | nil =>
        rw [hkinds] at hcompile
        exact ⟨_, hcompile⟩
    | cons kind kinds =>
        rw [hkinds] at hcompile
        exact hcompile
  · rw [compileTree_eq]
    exact attempt_eq_error_iff
  · rw [compileTree_eq, compileTree_eq, map_attempt, map_attempt]

end Taglit.Compiled
