import Taglit.Proofs.Compiled.Attributes
import Taglit.Proofs.Compiled.Scoping
import Taglit.Proofs.Json.Quoted
import Mathlib.Data.List.Nodup

/-!
# Included files

Every raw include is numbered, wherever it stands: its file is imported under a name with that
number, and a slot shows what is imported.  The imports are gathered in the template, while the
slots are spread over the blocks of bodies, of branches and of definitions.

`slotSources_perm` says which sources stand in the slots of all blocks: those of the visited code
and attributes, and the names of the included files, each one once.  `includes_shown_once` puts
imports and slots together.
-/

namespace Taglit.Compiled

open Taglit.Output (Options)
open Taglit.Markup.Node (includedIn visited visitedAll visitedBody visitedAlternate)

/-! ## Names of included files -/

/-- The names of two files differ, since their numbers do. -/
theorem includeName_injective : Function.Injective includeName :=
  fun _ _ h => Text.eq_of_repr_eq ((String.append_right_inj "__include$").mp h)

/-- The names of a number of files, if `seen` files were included before. -/
def includeNames (seen count : Nat) : List String :=
  (List.range' (seen + 1) count).map includeName

/-- The names of some files and then of others, which go on counting. -/
theorem includeNames_add (seen m n : Nat) :
    includeNames seen (m + n) = includeNames seen m ++ includeNames (seen + m) n := by
  rw [includeNames, includeNames, includeNames, ← List.map_append, Nat.add_right_comm seen m 1,
    List.range'_append_1]

/-- No name is given twice. -/
theorem nodup_includeNames (seen count : Nat) : (includeNames seen count).Nodup :=
  List.Nodup.map includeName_injective (List.nodup_range' 1)

/-- The names that are given, by their numbers. -/
theorem mem_includeNames {seen count : Nat} {source : String} :
    source ∈ includeNames seen count ↔
      ∃ i, seen < i ∧ i ≤ seen + count ∧ source = includeName i := by
  simp only [includeNames, List.mem_map, List.mem_range'_1]
  constructor
  · rintro ⟨i, hi, rfl⟩
    exact ⟨i, by omega, by omega, rfl⟩
  · rintro ⟨i, hlt, hle, rfl⟩
    exact ⟨i, by omega, rfl⟩

/-- The imports, each with the number of its file. -/
theorem importLines_eq_mapIdx (seen : Nat) (paths : List String) :
    importLines seen paths = paths.mapIdx fun i path =>
      "import " ++ includeName (seen + i + 1) ++ " from " ++ Json.writeText path := by
  induction paths generalizing seen with
  | nil => rfl
  | cons path paths ih =>
      rw [importLines, ih, List.mapIdx_cons]
      simp only [Nat.add_zero, Nat.add_assoc, Nat.add_comm 1]

/-! ## Sources in slots -/

/-- The sources that a node shows in slots of the body in which it stands, included files aside. -/
def shownSources (options : Options) : Markup.Node → List String
  | .code value true => [value]
  | .tag _ attributes _ _ => (compileAttributes options attributes).filterMap Attribute.source?
  | _ => []

/-- The attributes of a tag show the sources of those that contribute code. -/
theorem sourcesIn_attributes (attributes : List Attribute) :
    sourcesIn (slotsIn (attributes.flatMap Attribute.marks)) =
      attributes.filterMap Attribute.source? := by
  induction attributes with
  | nil => rfl
  | cons a attributes ih =>
      obtain ⟨name, content⟩ := a
      rw [List.flatMap_cons, slotsIn_append, sourcesIn_append, ih]
      cases content <;> rfl

/-- A self-closing tag shows its attributes and nothing else, -/
theorem sourcesIn_selfClosing (scope : Scope) (seen : Nat) (name : String)
    (attributes : List Markup.Attribute) (children : Option (List Markup.Node)) :
    sourcesIn (slotsIn (marks scope seen (.tag name attributes children true))) =
      (compileAttributes scope.options attributes).filterMap Attribute.source? := by
  rw [marks, slotsIn, slotsIn_append, sourcesIn_append, sourcesIn_attributes]
  · exact List.append_nil _
  · simp

/-- and any other one its attributes and then its children. -/
theorem sourcesIn_tag (scope : Scope) (seen : Nat) (name : String)
    (attributes : List Markup.Attribute) (children : Option (List Markup.Node)) :
    sourcesIn (slotsIn (marks scope seen (.tag name attributes children false))) =
      (compileAttributes scope.options attributes).filterMap Attribute.source? ++
        sourcesIn (slotsIn (marksBody scope seen children)) := by
  have hclose : slotsIn [.markup ("</" ++ name ++ ">")] = [] := rfl
  rw [marks, slotsIn, slotsIn_append, sourcesIn_append, sourcesIn_attributes,
    if_neg Bool.false_ne_true, slotsIn, slotsIn_append, hclose, List.append_nil]
  · simp
  · simp

/-- The sources in the slots of a site's block. -/
def Site.sources (scope : Scope) (site : Site) : List String :=
  sourcesIn (slotsIn (marksAll scope site.seen site.nodes))

/-- Lists that are put together from two parts each, and have the same parts. -/
theorem perm_append_middle {α : Type} {as bs cs ds ws xs ys zs : List α}
    (h : (as ++ bs).Perm (ws ++ xs)) (h' : (cs ++ ds).Perm (ys ++ zs)) :
    (as ++ cs ++ (bs ++ ds)).Perm (ws ++ ys ++ (xs ++ zs)) :=
  (perm_append_append (.refl _) (.refl _)).symm.trans (perm_append_append h h')

mutual

/-- The sources in slots, of a node and of the sites in it, are those that the visited nodes show
and the names of the files that they include. -/
theorem slotSources_perm (scope : Scope) (seen : Nat) (node : Markup.Node) :
    (sourcesIn (slotsIn (marks scope seen node)) ++
      (sites scope seen node).flatMap (Site.sources scope)).Perm
      ((visited node).flatMap (shownSources scope.options) ++
        includeNames seen (includedIn (visited node)).length) := by
  match node with
  | .block nodes => exact slotSourcesAll_perm scope seen nodes
  | .doctype _ => exact .refl _
  | .text _ => exact .refl _
  | .code _ true => exact .refl _
  | .code _ false => exact .refl _
  | .tag name attributes children true =>
      rw [sourcesIn_selfClosing]
      simp [sites, visited, shownSources, includeNames, Markup.Node.included?]
  | .tag name attributes children false =>
      rw [sourcesIn_tag, List.append_assoc]
      exact (slotSourcesBody_perm scope seen children).append_left _ |>.trans
        (.of_eq (List.append_assoc ..).symm)
  | .each _ _ _ none => exact .refl _
  | .each _ _ _ (some body) => exact slotSourcesAll_perm scope seen body
  | .conditional _ consequent alternate =>
      have hconsequent := slotSourcesAll_perm scope seen consequent
      have halternate := slotSourcesAlternate_perm scope
        (seen + (includedIn (visitedAll consequent)).length) alternate
      -- both branches are sites, and the second one goes on counting where the first one stops
      have hboth := perm_append_append hconsequent halternate
      rw [List.append_assoc (sourcesIn _), ← includeNames_add, ← List.length_append] at hboth
      rw [visited, sites, List.flatMap_cons, List.flatMap_cons, List.flatMap_append,
        List.flatMap_append, Markup.Node.includedIn_cons, Markup.Node.includedIn_append]
      exact hboth
  | .mixin _ _ none false _ => exact .refl _
  | .mixin _ _ none true _ => exact .refl _
  | .mixin _ _ (some body) false _ => exact slotSourcesAll_perm scope seen body
  | .mixin _ _ (some body) true _ => exact slotSourcesAll_perm scope seen body
  | .rawInclude _ => exact .refl _
  | .unsupported _ => exact .refl _

/-- The same for a list of nodes. -/
theorem slotSourcesAll_perm (scope : Scope) (seen : Nat) (nodes : List Markup.Node) :
    (sourcesIn (slotsIn (marksAll scope seen nodes)) ++
      (sitesAll scope seen nodes).flatMap (Site.sources scope)).Perm
      ((visitedAll nodes).flatMap (shownSources scope.options) ++
        includeNames seen (includedIn (visitedAll nodes)).length) := by
  match nodes with
  | [] => exact .refl _
  | node :: nodes =>
      have hnode := slotSources_perm scope seen node
      have hnodes := slotSourcesAll_perm scope (seen + (includedIn (visited node)).length) nodes
      rw [marksAll, sitesAll, visitedAll, slotsIn_append, sourcesIn_append, List.flatMap_append,
        List.flatMap_append, Markup.Node.includedIn_append, List.length_append, includeNames_add]
      exact perm_append_middle hnode hnodes

/-- The same for a body that may not be there. -/
theorem slotSourcesBody_perm (scope : Scope) (seen : Nat) (body : Option (List Markup.Node)) :
    (sourcesIn (slotsIn (marksBody scope seen body)) ++
      (sitesBody scope seen body).flatMap (Site.sources scope)).Perm
      ((visitedBody body).flatMap (shownSources scope.options) ++
        includeNames seen (includedIn (visitedBody body)).length) := by
  match body with
  | none => exact .refl _
  | some nodes => exact slotSourcesAll_perm scope seen nodes

/-- The same for a branch that may not be there, which is a site of its own. -/
theorem slotSourcesAlternate_perm (scope : Scope) (seen : Nat) (alternate : Option Markup.Node) :
    ((sitesAlternate scope seen alternate).flatMap (Site.sources scope)).Perm
      ((visitedAlternate alternate).flatMap (shownSources scope.options) ++
        includeNames seen (includedIn (visitedAlternate alternate)).length) := by
  match alternate with
  | none => exact .refl _
  | some node =>
      have hsources : Site.sources scope ⟨scope.name, seen, [node]⟩ =
          sourcesIn (slotsIn (marks scope seen node)) := by
        rw [Site.sources, marksAll, marksAll, List.append_nil]
      rw [sitesAlternate, List.flatMap_cons, hsources]
      exact slotSources_perm scope seen node

end

/-! ## Compiled templates -/

/-- The sources in the slots of all blocks of a template. -/
def Root.slotSources (root : Root) : List String :=
  root.blocks.flatMap fun b => sourcesIn b.slots

/-- The sources in the slots of a template are those that the visited nodes show, and the names of
the included files. -/
theorem slotSources_rootOf_perm (tree : Markup.Node) (name : String) (options : Options) :
    (rootOf tree name options).slotSources.Perm
      ((visited tree).flatMap (shownSources options) ++
        includeNames 0 (includedIn (visited tree)).length) := by
  refine ((blocks_rootOf_perm tree name options).flatMap_right _).trans ?_
  rw [List.flatMap_cons, List.flatMap_map]
  exact slotSources_perm { name, options } 0 tree

/-- Whether a source starts like the name of an included file. -/
def startsAsInclude (source : String) : Bool :=
  "__include$".toList.isPrefixOf source.toList

/-- The name of an included file starts like one. -/
theorem startsAsInclude_includeName (number : Nat) :
    startsAsInclude (includeName number) = true := by
  rw [startsAsInclude, includeName, String.toList_append, List.isPrefixOf_iff_prefix]
  exact List.prefix_append _ _

/-- If nothing else starts like the name of an included file, the slots that do are those of the
files. -/
theorem filter_slotSources_perm {tree : Markup.Node} (name : String) {options : Options}
    (h : ∀ node ∈ visited tree, ∀ source ∈ shownSources options node,
      startsAsInclude source = false) :
    ((rootOf tree name options).slotSources.filter startsAsInclude).Perm
      (includeNames 0 (includedIn (visited tree)).length) := by
  have hshown : ((visited tree).flatMap (shownSources options)).filter startsAsInclude = [] := by
    rw [List.filter_eq_nil_iff]
    intro source hsource
    obtain ⟨node, hnode, hsource⟩ := List.mem_flatMap.mp hsource
    rw [h node hnode source hsource]
    exact Bool.false_ne_true
  have hnames : (includeNames 0 (includedIn (visited tree)).length).filter startsAsInclude =
      includeNames 0 (includedIn (visited tree)).length := by
    rw [List.filter_eq_self]
    intro source hsource
    obtain ⟨i, -, -, rfl⟩ := mem_includeNames.mp hsource
    exact startsAsInclude_includeName i
  have hperm := (slotSources_rootOf_perm tree name options).filter startsAsInclude
  rwa [List.filter_append, hshown, hnames, List.nil_append] at hperm

/-- An attribute with a source contributes that code. -/
theorem content_of_source? {a : Attribute} {source : String} (h : a.source? = some source) :
    a.content = .code source := by
  unfold Attribute.source? at h
  split at h
  · next hcontent => rw [hcontent, Option.some.inj h]
  · cases h

/-- Included files and imports correspond to each other.

* There is one import for each visited raw include, in document order, under a name with its number,
  and with the path in a quoted form that stands for it.
* These names differ.
* If no visited code and no attribute of a visited tag shows a source that starts like such a name,
  each of the names is the source of exactly one slot, and no other slot starts like one. -/
theorem includes_shown_once {tree : Markup.Node} {name : String} {options : Options} {root : Root}
    (h : compileTree tree name options = .ok root) :
    (root.imports = (includedIn (visited tree)).mapIdx fun i path =>
      "import " ++ includeName (i + 1) ++ " from " ++ Json.writeText path) ∧
    (∀ path ∈ includedIn (visited tree), ∃ body, Json.Spells body path.toList ∧
      (Json.writeText path).toList = '"' :: (body ++ ['"'])) ∧
    (includeNames 0 (includedIn (visited tree)).length).Nodup ∧
    ((∀ value, .code value true ∈ visited tree → startsAsInclude value = false) →
      (∀ tag attributes children selfClosing,
        .tag tag attributes children selfClosing ∈ visited tree →
        ∀ a ∈ compileAttributes options attributes, ∀ source, a.content = .code source →
          startsAsInclude source = false) →
      (∀ i, 1 ≤ i → i ≤ (includedIn (visited tree)).length →
        root.slotSources.count (includeName i) = 1) ∧
      ∀ source ∈ root.slotSources, startsAsInclude source = true →
        ∃ i, 1 ≤ i ∧ i ≤ (includedIn (visited tree)).length ∧ source = includeName i) := by
  obtain ⟨-, rfl⟩ := compileTree_eq_ok_iff.mp h
  refine ⟨?_, fun path _ => Json.exists_spells_writeText path, nodup_includeNames 0 _,
    fun hcode htag => ?_⟩
  · have himports := importLines_eq_mapIdx 0 (includedIn (visited tree))
    simp only [Nat.zero_add] at himports
    exact himports
  · -- code and attributes are all that is shown beside files, and neither starts like a name
    have hshown : ∀ node ∈ visited tree, ∀ source ∈ shownSources options node,
        startsAsInclude source = false := by
      intro node hnode source hsource
      match node with
      | .code value true =>
          rw [List.mem_singleton.mp hsource]
          exact hcode value hnode
      | .tag tag attributes children selfClosing =>
          obtain ⟨a, ha, hsource⟩ := List.mem_filterMap.mp hsource
          exact htag tag attributes children selfClosing hnode a ha source
            (content_of_source? hsource)
    have hperm := filter_slotSources_perm name hshown
    refine ⟨fun i hpos hle => ?_, fun source hsource hstarts => ?_⟩
    · -- among the slots that start like a name, this one is counted as often as among the names
      have hmem : includeName i ∈ includeNames 0 (includedIn (visited tree)).length :=
        mem_includeNames.mpr ⟨i, by omega, by omega, rfl⟩
      rw [← List.count_filter (startsAsInclude_includeName i), hperm.count_eq]
      exact List.count_eq_one_of_mem (nodup_includeNames 0 _) hmem
    · have hmem : source ∈ includeNames 0 (includedIn (visited tree)).length :=
        hperm.mem_iff.mp (List.mem_filter.mpr ⟨hsource, hstarts⟩)
      obtain ⟨i, hpos, hle, rfl⟩ := mem_includeNames.mp hmem
      exact ⟨i, by omega, by omega, rfl⟩

/-- Files in the definition of a mixin and in both branches of a condition, beside other slots. -/
theorem includes_shown_once_branches :
    ∃ root, compileTree (.block [
        .mixin "m" none (some [.rawInclude "a.html"]) false [],
        .code "x" true,
        .conditional "x" [.rawInclude "b.html"] (some (.tag "p"
          [⟨"title", some (.source "y"), true⟩] (some [.rawInclude "c.html"]) false))])
        "t" {} = .ok root ∧
      root.imports = ["import __include$1 from \"a.html\"", "import __include$2 from \"b.html\"",
        "import __include$3 from \"c.html\""] ∧
      root.slotSources.count "__include$3" = 1 := by
  have htitle : compileAttributes {} [⟨"title", some (.source "y"), true⟩] =
      [⟨"title", .code "y"⟩] := compileAttributes_eq _ _
  obtain ⟨root, h⟩ : ∃ root, compileTree (.block [
        .mixin "m" none (some [.rawInclude "a.html"]) false [],
        .code "x" true,
        .conditional "x" [.rawInclude "b.html"] (some (.tag "p"
          [⟨"title", some (.source "y"), true⟩] (some [.rawInclude "c.html"]) false))])
        "t" {} = .ok root :=
    ⟨_, compileTree_eq_ok_iff.mpr ⟨rfl, rfl⟩⟩
  obtain ⟨himports, -, -, hslots⟩ := includes_shown_once h
  refine ⟨root, h, himports, (hslots ?_ ?_).1 3 (by decide) (by decide)⟩
  · intro value hvalue
    have hx : value = "x" := by
      simpa [visited, visitedAll, visitedBody, visitedAlternate] using hvalue
    rw [hx]
    decide
  · intro tag attributes children selfClosing htag a ha source hsource
    obtain ⟨-, rfl, -, -⟩ : tag = "p" ∧ attributes = [⟨"title", some (.source "y"), true⟩] ∧
        children = some [.rawInclude "c.html"] ∧ selfClosing = false := by
      simpa [visited, visitedAll, visitedBody, visitedAlternate] using htag
    rw [htitle, List.mem_singleton] at ha
    rw [ha] at hsource
    cases hsource
    decide

end Taglit.Compiled
