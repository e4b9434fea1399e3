import Taglit.Proofs.Compiled.Refusal

/-!
# Compiling one list of nodes after the other

Compiling a node only ever adds to the draft at hand, and what it adds depends on the draft through
nothing but the number of files included before.  `lower_eq_followedBy` says so of any draft: the
node is compiled into a fresh draft, and that one follows the draft at hand.

So the template of `xs ++ ys` is the template of `xs` with the template of `ys` glued to it, if the
files of `ys` are counted from those of `xs` on.  `compileTree_append` has the three ways in which
this can go.
-/

namespace Taglit.Compiled

open Taglit.Output (Options)
open Taglit.Markup.Node (unsupportedIn includedIn visited visitedAll visitedAll_append)

/-! ## Gluing segments -/

/-- Segments after segments: the last of the first ones and the first of the others become one. -/
def glue (xs ys : List String) : List String :=
  xs.dropLast ++ (xs.getLastD "" ++ ys.headD "") :: ys.tail

/-- The two segments at the seam become one. -/
theorem glue_concat_cons (xs : List String) (x y : String) (ys : List String) :
    glue (xs ++ [x]) (y :: ys) = xs ++ (x ++ y) :: ys := by
  simp [glue]

/-- Segments further up front do not matter to the seam. -/
theorem append_glue (xs : List String) (x : String) (ys : List String) :
    xs ++ glue [x] ys = glue (xs ++ [x]) ys := by
  simp [glue]

/-- Gluing one segment after the other. -/
theorem glue_glue (x y : String) (ys : List String) :
    glue [x] (glue [y] ys) = glue [x ++ y] ys := by
  simp [glue, String.append_assoc]

/-- What was pending before the marks goes to the front of their first segment. -/
theorem segments_eq_glue (pending : String) (marks : List Mark) :
    finished pending marks ++ [remaining pending marks] =
      glue [pending] (finished "" marks ++ [remaining "" marks]) := by
  induction marks generalizing pending with
  | nil => simp [finished, remaining, glue]
  | cons mark marks ih =>
      cases mark with
      | markup text =>
          rw [finished, remaining, finished, remaining, ih, ih ("" ++ text), glue_glue,
            String.empty_append]
      | text text =>
          rw [finished, remaining, finished, remaining, ih, ih ("" ++ _), glue_glue,
            String.empty_append]
      | slot piece => simp [finished, remaining, glue]

/-- The segments of marks after marks. -/
theorem segments_append (pending : String) (xs ys : List Mark) :
    finished pending (xs ++ ys) ++ [remaining pending (xs ++ ys)] =
      glue (finished pending xs ++ [remaining pending xs])
        (finished "" ys ++ [remaining "" ys]) := by
  rw [finished_append, remaining_append, List.append_assoc, segments_eq_glue, append_glue]

/-! ## Drafts after drafts -/

namespace Draft

/-- A draft in which nothing has been written, if `seen` files were included before. -/
def fresh (seen : Nat) : Draft :=
  { target := { name := "" }, includes := seen }

/-- All that is written in a draft, after all that is written in another one.  The block keeps its
name, and the quasis keep together with what is pending after them. -/
def followedBy (draft next : Draft) : Draft :=
  let segments :=
    glue (draft.target.quasis ++ [draft.pending]) (next.target.quasis ++ [next.pending])
  { pending := segments.getLastD ""
    target :=
      { draft.target with
        code := draft.target.code ++ next.target.code
        quasis := segments.dropLast
        slots := draft.target.slots ++ next.target.slots }
    hoisted := draft.hoisted ++ next.hoisted
    imports := draft.imports ++ next.imports
    includes := next.includes }

/-- Extending a draft is to write into a fresh one, and to have it follow. -/
theorem extend_eq_followedBy (draft : Draft) (y : Yield) :
    draft.extend y = draft.followedBy ((fresh draft.includes).extend y) := by
  have hsegments : glue (draft.target.quasis ++ [draft.pending])
      (finished "" y.marks ++ [remaining "" y.marks]) =
        draft.target.quasis ++ finished draft.pending y.marks ++
          [remaining draft.pending y.marks] := by
    rw [← append_glue, ← segments_eq_glue, List.append_assoc]
  simp [followedBy, extend, fresh, hsegments]

end Draft

/-- Compiling a node into a draft is to compile it into a fresh one, and to have it follow. -/
theorem lower_eq_followedBy (scope : Scope) (nested : Bool) (node : Markup.Node) (draft : Draft) :
    lower scope nested node draft =
      (lower scope nested node (.fresh draft.includes)).map draft.followedBy := by
  rw [lower_eq, lower_eq, map_attempt, Draft.extend_eq_followedBy]
  rfl

/-! ## Templates after templates -/

/-- A template with another one glued to it. -/
def Root.glue (first second : Root) : Root where
  block :=
    { first.block with
      code := first.block.code ++ second.block.code
      quasis := Compiled.glue first.block.quasis second.block.quasis
      slots := first.block.slots ++ second.block.slots }
  imports := first.imports ++ second.imports

/-- At the seam, the last quasi of the one template and the first of the other become one. -/
theorem Root.exists_seam {first second : Root} (hfirst : first.block.quasis ≠ [])
    (hsecond : second.block.quasis ≠ []) :
    ∃ quasis last head rest, first.block.quasis = quasis ++ [last] ∧
      second.block.quasis = head :: rest ∧
      (first.glue second).block.quasis = quasis ++ (last ++ head) :: rest := by
  obtain ⟨head, rest, hhead⟩ := List.exists_cons_of_ne_nil hsecond
  have hlast := (List.dropLast_concat_getLast hfirst).symm
  refine ⟨_, _, head, rest, hlast, hhead, ?_⟩
  calc
    _ = Compiled.glue first.block.quasis second.block.quasis := rfl
    _ = Compiled.glue (first.block.quasis.dropLast ++ [first.block.quasis.getLast hfirst])
        (head :: rest) := by rw [← hlast, hhead]
    _ = _ := glue_concat_cons ..

/-- Compile the tree of a template, if `seen` files were included before it. -/
def compileFrom (seen : Nat) (tree : Markup.Node) (name : String) (options : Options) :
    Except Error Root := do
  let draft ← lower { name, options } false tree { target := { name }, includes := seen }
  return {
    block := { draft.target.close draft.pending with code := draft.hoisted }
    imports := draft.imports }

/-- A template starts with no files included. -/
theorem compileTree_eq_compileFrom (tree : Markup.Node) (name : String) (options : Options) :
    compileTree tree name options = compileFrom 0 tree name options := rfl

/-- The template that a yield makes, if `seen` files were included before it. -/
def Yield.toRoot (name : String) (seen : Nat) (y : Yield) : Root where
  block := { enclosed name [] y.marks with code := y.hoisted }
  imports := importLines seen y.included

/-- The template of two yields is glued from those of the yields. -/
theorem Yield.toRoot_append (name : String) (seen : Nat) (y z : Yield) :
    (y ++ z).toRoot name seen =
      (y.toRoot name seen).glue (z.toRoot name (seen + y.included.length)) := by
  simp only [Yield.toRoot, Root.glue, Yield.append_def, enclosed, segments_append, slotsIn_append,
    importLines_append]

/-- Compiling from some file on is to yield from there on, if nothing in the tree is refused. -/
theorem compileFrom_eq (seen : Nat) (tree : Markup.Node) (name : String) (options : Options) :
    compileFrom seen tree name options = attempt (unsupportedIn (visited tree))
      ((yieldOf { name, options } false seen tree).toRoot name seen) := by
  rw [compileFrom, lower_eq, attempt_bind_pure]
  simp [Draft.extend, Block.close, yieldOf, Yield.toRoot, enclosed]

/-- A compiled template has a quasi. -/
theorem quasis_ne_nil_of_compileFrom {seen : Nat} {tree : Markup.Node} {name : String}
    {options : Options} {root : Root} (h : compileFrom seen tree name options = .ok root) :
    root.block.quasis ≠ [] := by
  rw [compileFrom_eq] at h
  cases hkinds : unsupportedIn (visited tree) with
  | nil =>
      rw [hkinds, attempt_nil] at h
      obtain rfl := Except.ok.inj h
      exact List.concat_ne_nil _ _
  | cons kind kinds =>
      rw [hkinds] at h
      cases h

/-- The yields of two lists follow each other, the second one counting the files of the first. -/
theorem yieldOfAll_append (scope : Scope) (nested : Bool) (seen : Nat) (xs ys : List Markup.Node) :
    yieldOfAll scope nested seen (xs ++ ys) = yieldOfAll scope nested seen xs ++
      yieldOfAll scope nested (seen + (includedIn (visitedAll xs)).length) ys := by
  induction xs generalizing seen with
  | nil => cases nested <;> rfl
  | cons node xs ih =>
      rw [List.cons_append, yieldOfAll_cons, yieldOfAll_cons, ih]
      simp [Yield.append_def, visitedAll, Nat.add_assoc]

/-- The template of two lists is glued from those of the lists, or the first refusal counts. -/
theorem compileFrom_append (seen : Nat) (xs ys : List Markup.Node) (name : String)
    (options : Options) :
    compileFrom seen (.block (xs ++ ys)) name options = do
      let first ← compileFrom seen (.block xs) name options
      let second ← compileFrom (seen + (includedIn (visitedAll xs)).length) (.block ys) name options
      return first.glue second := by
  have hkinds : unsupportedIn (visited (.block (xs ++ ys))) =
      unsupportedIn (visited (.block xs)) ++ unsupportedIn (visited (.block ys)) := by
    simp [visited, visitedAll_append, Markup.Node.unsupported?]
  have hyield := yieldOfAll_append { name, options } false seen xs ys
  have hroot := Yield.toRoot_append name seen (yieldOfAll { name, options } false seen xs)
    (yieldOfAll { name, options } false (seen + (includedIn (visitedAll xs)).length) ys)
  rw [← hyield] at hroot
  rw [compileFrom_eq, compileFrom_eq, compileFrom_eq, hkinds]
  refine .trans (congrArg (attempt _) hroot) (.symm (attempt_bind _ _ _ _ _ ?_))
  exact attempt_bind_pure _ _ _

/-- How compilation goes with one list of nodes after the other: what the first list is refused for,
else what the second one is refused for, is what the whole list is refused for; and if both are
compiled, the whole is glued from the two, with the files of the second list counted from those of
the first on.  More generally, a node compiled into any draft writes what it writes into a fresh
one. -/
theorem compileTree_append (xs ys : List Markup.Node) (name : String) (options : Options) :
    (∀ e, compileTree (.block xs) name options = .error e →
      compileTree (.block (xs ++ ys)) name options = .error e) ∧
    (∀ first e, compileTree (.block xs) name options = .ok first →
      compileTree (.block ys) name options = .error e →
      compileTree (.block (xs ++ ys)) name options = .error e) ∧
    (∀ first alone, compileTree (.block xs) name options = .ok first →
      compileTree (.block ys) name options = .ok alone →
      ∃ second,
        compileFrom (includedIn (visitedAll xs)).length (.block ys) name options = .ok second ∧
        compileTree (.block (xs ++ ys)) name options = .ok (first.glue second) ∧
        ∃ quasis last head rest, first.block.quasis = quasis ++ [last] ∧
          second.block.quasis = head :: rest ∧
          (first.glue second).block.quasis = quasis ++ (last ++ head) :: rest) ∧
    ∀ (nested : Bool) (node : Markup.Node) (draft : Draft),
      lower { name, options } nested node draft =
        (lower { name, options } nested node (.fresh draft.includes)).map draft.followedBy := by
  have happend := compileFrom_append 0 xs ys name options
  simp only [← compileTree_eq_compileFrom, Nat.zero_add] at happend
  refine ⟨fun e hxs => ?_, fun first e hxs hys => ?_, fun first alone hxs hys => ?_,
    fun nested node draft => lower_eq_followedBy _ nested node draft⟩
  · rw [happend, hxs]
    rfl
  · -- where the count of files starts does not matter to a refusal
    have hsecond :
        compileFrom (includedIn (visitedAll xs)).length (.block ys) name options = .error e := by
      rw [compileTree_eq, attempt_eq_error_iff] at hys
      rwa [compileFrom_eq, attempt_eq_error_iff]
    rw [happend, hxs, hsecond]
    rfl
  · -- nor does it matter to whether there is one
    obtain ⟨second, hsecond⟩ : ∃ second,
        compileFrom (includedIn (visitedAll xs)).length (.block ys) name options = .ok second := by
      rw [compileFrom_eq, (compileTree_eq_ok_iff.mp hys).1]
      exact ⟨_, rfl⟩
    refine ⟨second, hsecond, ?_, Root.exists_seam (quasis_ne_nil_of_compileFrom hxs)
      (quasis_ne_nil_of_compileFrom hsecond)⟩
    rw [happend, hxs, hsecond]
    rfl

/-- Two lists that each show a file: the second file gets the second name, and the texts at the seam
stand in one quasi. -/
theorem compileTree_append_includes :
    compileTree
        (.block ([.text "a", .rawInclude "f", .text "b"] ++ [.text "c", .rawInclude "g"])) "t" {} =
      .ok ⟨⟨"t", [], ["a", "bc", ""], [.source "__include$1", .source "__include$2"]⟩,
        ["import __include$1 from \"f\"", "import __include$2 from \"g\""]⟩ := by
  have hfirst : compileTree (.block [.text "a", .rawInclude "f", .text "b"]) "t" {} =
      .ok ⟨⟨"t", [], ["a", "b"], [.source "__include$1"]⟩, ["import __include$1 from \"f\""]⟩ := by
    rw [compileTree_eq_ok_iff]
    exact ⟨rfl, rfl⟩
  have halone : compileTree (.block [.text "c", .rawInclude "g"]) "t" {} =
      .ok ⟨⟨"t", [], ["c", ""], [.source "__include$1"]⟩, ["import __include$1 from \"g\""]⟩ := by
    rw [compileTree_eq_ok_iff]
    exact ⟨rfl, rfl⟩
  obtain ⟨second, hsecond, happend, -⟩ := (compileTree_append _ _ "t" {}).2.2.1 _ _ hfirst halone
  rw [compileFrom_eq] at hsecond
  obtain rfl := Except.ok.inj hsecond
  exact happend

end Taglit.Compiled
