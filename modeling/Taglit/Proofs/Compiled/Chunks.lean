import Taglit.Proofs.Compiled.Blocks
import Taglit.Proofs.Text.Chunk

/-!
# Quasis as chunks of template literals

Text is escaped piece by piece, and the pieces gather in one quasi.  Each piece is a chunk, but two
pieces side by side need not be: a text that ends in a dollar sign and a text that starts with an
opening brace open a substitution between them.  `isChunk_quasis_iff` says that this is the only way
in which a quasi of a compiled template can fail to be a chunk, if the names of tags and attributes
are plain.
-/

namespace Taglit.Compiled

open Taglit.Output (Options)
open Taglit.Markup.Node (visited visitedAll visitedBody visitedAlternate includedIn)
open Taglit.Text (isChunk scanChunk stateAfter isInert isPassive)

/-! ## What stands side by side in a body -/

mutual

/-- What a node shows in the literal of its body, in order: texts, and `none` for all else that
stands there. -/
def shown : Markup.Node → List (Option String)
  | .block nodes => shownAll nodes
  | .text value => [some value]
  | .tag _ _ children selfClosing =>
    if selfClosing then [none] else none :: (shownBody children ++ [none])
  | .code _ buffered => if buffered then [none] else []
  | .each _ _ _ body => if body.isSome then [none] else []
  | .mixin _ _ _ call _ => if call then [none] else []
  | .unsupported _ => []
  -- a doctype starts and ends in markup, so it parts the texts around it
  | .doctype _ | .conditional .. | .rawInclude _ => [none]

/-- What a list of nodes shows. -/
def shownAll : List Markup.Node → List (Option String)
  | [] => []
  | node :: nodes => shown node ++ shownAll nodes

/-- What a body that may not be there shows. -/
def shownBody : Option (List Markup.Node) → List (Option String)
  | none => []
  | some nodes => shownAll nodes

end

/-- Whether the first text that is not empty starts with an opening brace, and only empty texts
stand before it. -/
def opensBrace : List (Option String) → Bool
  | some text :: items => if text = "" then opensBrace items else text.toList.head? == some '\x7b'
  | _ => false

/-- Whether a substitution is split between texts: one ends in a dollar sign, and the next one
starts with an opening brace. -/
def splitsSubstitution : List (Option String) → Bool
  | [] => false
  | none :: items => splitsSubstitution items
  | some text :: items =>
    text.toList.getLast? == some '$' && opensBrace items || splitsSubstitution items

/-- Whether a dollar sign stands at the end, if one stood before; nothing if a substitution is
split. -/
def dollarAfter (dollar : Bool) : List (Option String) → Option Bool
  | [] => some dollar
  | none :: items => dollarAfter false items
  | some text :: items =>
    if text = "" then dollarAfter dollar items
    else if dollar && text.toList.head? == some '\x7b' then none
    else dollarAfter (text.toList.getLast? == some '$') items

/-- The items of two lists, one after the other: the second starts where the first has ended. -/
theorem dollarAfter_append (dollar : Bool) (xs ys : List (Option String)) :
    dollarAfter dollar (xs ++ ys) =
      (dollarAfter dollar xs).bind fun next => dollarAfter next ys := by
  fun_induction dollarAfter dollar xs with
  | case1 dollar => rfl
  | case2 dollar items ih => exact ih
  | case3 dollar items ih => simp [dollarAfter, ih]
  | case4 dollar text items hne hsplit => simp [dollarAfter, hne, hsplit]
  | case5 dollar text items hne hsplit ih =>
      rw [List.cons_append, dollarAfter, if_neg hne, if_neg hsplit, ih]

/-- Nothing comes out iff a substitution is split among the items, or opened by the first of
them. -/
theorem dollarAfter_eq_none_iff (dollar : Bool) (items : List (Option String)) :
    dollarAfter dollar items = none ↔
      splitsSubstitution items = true ∨ dollar = true ∧ opensBrace items = true := by
  fun_induction dollarAfter dollar items with
  | case1 dollar => simp [splitsSubstitution, opensBrace]
  | case2 dollar items ih => simp [splitsSubstitution, opensBrace, ih]
  | case3 dollar items ih => simp [splitsSubstitution, opensBrace, ih]
  | case4 dollar text items hne hsplit => simp_all [splitsSubstitution, opensBrace]
  | case5 dollar text items hne hsplit ih =>
      -- the dollar sign before this text is spent, so only what comes after it counts
      have hopen : dollar = true → opensBrace (some text :: items) = false := by
        intro hdollar
        simpa [opensBrace, hne, hdollar] using hsplit
      rw [ih, splitsSubstitution]
      cases dollar <;> simp_all [or_comm]

/-! ## The quasis of marks -/

/-- What a mark shows. -/
def Mark.shown : Mark → Option String
  | .text value => some value
  | .markup _ | .slot _ => none

/-- Whether markup among the marks is inert. -/
def Mark.Inert : Mark → Prop
  | .markup value => isInert value = true
  | .text _ | .slot _ => True

/-- The quasis that marks make after pending markup. -/
def quasisAfter (pending : String) (marks : List Mark) : List String :=
  finished pending marks ++ [remaining pending marks]

/-- Nothing that follows mends markup that has ended its chunk. -/
theorem exists_not_isChunk (pending : String) (marks : List Mark)
    (h : scanChunk .plain pending.toList = none) :
    ∃ q ∈ quasisAfter pending marks, isChunk q = false := by
  induction marks generalizing pending with
  | nil => exact ⟨pending, by simp [quasisAfter, finished, remaining], by simp [isChunk, h]⟩
  | cons mark marks ih =>
      have hmore (more : String) : scanChunk .plain (pending ++ more).toList = none := by
        rw [String.toList_append, Text.scanChunk_append, h, Option.bind_none]
      cases mark with
      | markup value => exact ih (pending ++ value) (hmore value)
      | text value => exact ih (pending ++ Text.escapeTemplate value) (hmore _)
      | slot piece => exact ⟨pending, by simp [quasisAfter, finished], by simp [isChunk, h]⟩

/-- All quasis are chunks iff no substitution is split between texts; `state` is the state after the
pending markup. -/
theorem isChunk_quasisAfter_iff (pending : String) (marks : List Mark)
    (hmarks : ∀ m ∈ marks, m.Inert) (state : Text.ChunkState)
    (hscan : scanChunk .plain pending.toList = some state) (hstate : state ≠ .escaped) :
    (∀ q ∈ quasisAfter pending marks, isChunk q = true) ↔
      dollarAfter (state == .dollar) (marks.map Mark.shown) ≠ none := by
  induction marks generalizing pending state with
  | nil =>
      have hpending := Text.isChunk_of_scanChunk hscan hstate
      simp [quasisAfter, finished, remaining, hpending, dollarAfter]
  | cons mark marks ih =>
      have hrest : ∀ m ∈ marks, m.Inert := fun m hm => hmarks m (by simp [hm])
      have hmore (more : String) :
          scanChunk .plain (pending ++ more).toList = scanChunk state more.toList := by
        rw [String.toList_append, Text.scanChunk_append, hscan, Option.bind_some]
      cases mark with
      | markup value =>
          -- a dollar sign before inert markup opens nothing
          have hvalue : isInert value = true := hmarks (.markup value) (by simp)
          have hnext := (hmore value).trans (Text.scanChunk_of_isInert hvalue hstate)
          exact ih (pending ++ value) hrest .plain hnext (by simp)
      | text value =>
          have hnext := (hmore (Text.escapeTemplate value)).trans
            (Text.scanChunk_escapeTemplate value hstate)
          rw [List.map_cons, Mark.shown, dollarAfter]
          by_cases hempty : value = ""
          · rw [if_pos hempty] at hnext ⊢
            exact ih _ hrest state hnext hstate
          · rw [if_neg hempty] at hnext ⊢
            by_cases hsplit : (state == .dollar && value.toList.head? == some '\x7b') = true
            · -- the substitution is split here, and the quasi that has it is no chunk
              rw [if_pos hsplit] at hnext ⊢
              obtain ⟨q, hq, hchunk⟩ := exists_not_isChunk _ marks hnext
              refine ⟨fun h => ?_, fun h => absurd rfl h⟩
              rw [h q hq] at hchunk
              cases hchunk
            · rw [if_neg hsplit] at hnext ⊢
              have ih := ih _ hrest (stateAfter value.toList) hnext (Text.stateAfter_ne_escaped _)
              rwa [Text.stateAfter_beq_dollar] at ih
      | slot piece =>
          -- the pending quasi ends here, whatever its last character is
          have hpending := Text.isChunk_of_scanChunk hscan hstate
          have ih := ih "" hrest .plain rfl (by simp)
          rw [quasisAfter, finished, remaining, List.cons_append, List.forall_mem_cons]
          exact ⟨fun h => ih.mp h.2, fun h => ⟨hpending, ih.mpr h⟩⟩

/-! ## Markup with plain names -/

/-- Whether the name of a tag and the names of its compiled attributes are plain: no backtick, no
backslash, no dollar sign. -/
def HasPlainNames (options : Options) : Markup.Node → Prop
  | .tag name attributes _ _ =>
    isPassive name = true ∧ ∀ a ∈ compileAttributes options attributes, isPassive a.name = true
  | _ => True

/-- The markup of an attribute with a plain name is inert. -/
theorem inert_attribute {a : Attribute} (h : isPassive a.name = true) : ∀ m ∈ a.marks, m.Inert := by
  have hname : isInert (" " ++ a.name) = true := Text.isInert_append (by decide) h
  unfold Attribute.marks
  split <;> simp [Mark.Inert, hname] <;> decide

mutual

/-- Markup with plain names is inert. -/
theorem inert_marks (scope : Scope) (seen : Nat) (node : Markup.Node)
    (h : ∀ n ∈ visited node, HasPlainNames scope.options n) :
    ∀ m ∈ marks scope seen node, m.Inert := by
  match node with
  | .block nodes => exact inert_marksAll scope seen nodes fun n hn => h n (by simp [visited, hn])
  | .tag name attributes children selfClosing =>
      obtain ⟨hname, hattributes⟩ :=
        h (.tag name attributes children selfClosing) (by simp [visited])
      have hopen : isInert ("<" ++ name) = true := Text.isInert_append (by decide) hname
      have hclose : isInert ("</" ++ name ++ ">") = true :=
        Text.isInert_append (Text.isInert_append (by decide) hname) (by decide)
      intro m hm
      rw [marks, List.mem_cons, List.mem_append, List.mem_flatMap] at hm
      rcases hm with rfl | ⟨a, ha, hm⟩ | hm
      · exact hopen
      · exact inert_attribute (hattributes a ha) m hm
      · cases selfClosing with
        | true =>
            obtain rfl : m = .markup "/>" := by simpa using hm
            exact (by decide : isInert "/>" = true)
        | false =>
            have ih := inert_marksBody scope seen children fun n hn => h n (by simp [visited, hn])
            rw [if_neg (by simp), List.mem_cons, List.mem_append, List.mem_singleton] at hm
            rcases hm with rfl | hm | rfl
            · exact (by decide : isInert ">" = true)
            · exact ih m hm
            · exact hclose
  | .code value true => simp [marks, Mark.Inert]
  | .code value false => simp [marks]
  | .doctype value => simp [marks, Mark.Inert]
  | .text value => simp [marks, Mark.Inert]
  | .each _ _ _ none => simp [marks]
  | .each _ _ _ (some body) => simp [marks, Mark.Inert]
  | .conditional _ _ _ => simp [marks, Mark.Inert]
  | .mixin _ _ _ false _ => simp [marks]
  | .mixin _ _ _ true _ => simp [marks, Mark.Inert]
  | .rawInclude _ => simp [marks, Mark.Inert]
  | .unsupported _ => simp [marks]

/-- The same for a list of nodes. -/
theorem inert_marksAll (scope : Scope) (seen : Nat) (nodes : List Markup.Node)
    (h : ∀ n ∈ visitedAll nodes, HasPlainNames scope.options n) :
    ∀ m ∈ marksAll scope seen nodes, m.Inert := by
  match nodes with
  | [] => simp [marksAll]
  | node :: nodes =>
      have ih := inert_marks scope seen node fun n hn => h n (by simp [visitedAll, hn])
      have ihs := inert_marksAll scope (seen + (includedIn (visited node)).length) nodes
        fun n hn => h n (by simp [visitedAll, hn])
      intro m hm
      rw [marksAll, List.mem_append] at hm
      exact hm.elim (ih m) (ihs m)

/-- The same for a body that may not be there. -/
theorem inert_marksBody (scope : Scope) (seen : Nat) (body : Option (List Markup.Node))
    (h : ∀ n ∈ visitedBody body, HasPlainNames scope.options n) :
    ∀ m ∈ marksBody scope seen body, m.Inert := by
  match body with
  | none => simp [marksBody]
  | some nodes => exact inert_marksAll scope seen nodes h

end

/-- Attributes end in markup, so that no dollar sign stands after them. -/
theorem dollarAfter_attributes (attributes : List Attribute) :
    dollarAfter false ((attributes.flatMap Attribute.marks).map Mark.shown) = some false := by
  induction attributes with
  | nil => rfl
  | cons a attributes ih =>
      have ha : dollarAfter false (a.marks.map Mark.shown) = some false := by
        unfold Attribute.marks
        split <;> simp [Mark.shown, dollarAfter]
      rw [List.flatMap_cons, List.map_append, dollarAfter_append, ha]
      exact ih

mutual

/-- What the marks of a node show, is what the node shows. -/
theorem dollarAfter_marks (scope : Scope) (seen : Nat) (dollar : Bool) (node : Markup.Node) :
    dollarAfter dollar ((marks scope seen node).map Mark.shown) =
      dollarAfter dollar (shown node) := by
  match node with
  | .block nodes => exact dollarAfter_marksAll scope seen dollar nodes
  | .doctype value =>
      -- a text to the marks, but it starts and ends like markup
      have hhead : ("<!DOCTYPE " ++ value ++ ">").toList.head? = some '<' := by simp
      have hlast : ("<!DOCTYPE " ++ value ++ ">").toList.getLast? = some '>' := by
        rw [String.toList_append]
        exact List.getLast?_concat
      have hempty : "<!DOCTYPE " ++ value ++ ">" ≠ "" := by
        intro h
        rw [h] at hhead
        simp at hhead
      simp only [marks, shown, List.map_cons, List.map_nil, Mark.shown, dollarAfter, hempty, hhead,
        hlast]
      simp
  | .text value => rfl
  | .code value true => rfl
  | .code value false => rfl
  | .tag name attributes children true =>
      rw [marks, List.map_cons, List.map_append, Mark.shown, dollarAfter, dollarAfter_append,
        dollarAfter_attributes]
      rfl
  | .tag name attributes children false =>
      have ih := dollarAfter_marksBody scope seen false children
      rw [marks, List.map_cons, List.map_append, Mark.shown, dollarAfter, dollarAfter_append,
        dollarAfter_attributes]
      simp [Mark.shown, dollarAfter, dollarAfter_append, shown, ih]
  | .each _ _ _ none => rfl
  | .each _ _ _ (some body) => rfl
  | .conditional _ _ _ => rfl
  | .mixin _ _ _ false _ => rfl
  | .mixin _ _ _ true _ => rfl
  | .rawInclude _ => rfl
  | .unsupported _ => rfl

/-- The same for a list of nodes. -/
theorem dollarAfter_marksAll (scope : Scope) (seen : Nat) (dollar : Bool)
    (nodes : List Markup.Node) :
    dollarAfter dollar ((marksAll scope seen nodes).map Mark.shown) =
      dollarAfter dollar (shownAll nodes) := by
  match nodes with
  | [] => rfl
  | node :: nodes =>
      rw [marksAll, List.map_append, shownAll, dollarAfter_append, dollarAfter_append,
        dollarAfter_marks scope seen dollar node]
      exact congrArg _ (funext fun next => dollarAfter_marksAll scope _ next nodes)

/-- The same for a body that may not be there. -/
theorem dollarAfter_marksBody (scope : Scope) (seen : Nat) (dollar : Bool)
    (body : Option (List Markup.Node)) :
    dollarAfter dollar ((marksBody scope seen body).map Mark.shown) =
      dollarAfter dollar (shownBody body) := by
  match body with
  | none => rfl
  | some nodes => exact dollarAfter_marksAll scope seen dollar nodes

end

/-! ## Compiled templates -/

/-- The quasis of an enclosed body with inert markup are chunks iff its marks split no
substitution. -/
theorem isChunk_enclosed_iff (name : String) (statements : List String) {marks : List Mark}
    {items : List (Option String)} (hmarks : ∀ m ∈ marks, m.Inert)
    (hitems : dollarAfter false (marks.map Mark.shown) = dollarAfter false items) :
    (∀ q ∈ (enclosed name statements marks).quasis, isChunk q = true) ↔
      splitsSubstitution items = false := by
  -- nothing is pending before the body, and so no dollar sign
  have hquasis := isChunk_quasisAfter_iff "" marks hmarks .plain rfl (by simp)
  have hnone := dollarAfter_eq_none_iff false items
  rw [← hitems] at hnone
  refine hquasis.trans ((not_congr hnone).trans ?_)
  simp

/-- If tags and attributes have plain names, then the quasis of a compiled template are chunks iff
no substitution is split between texts, neither in the tree itself nor in a body that has a block of
its own. -/
theorem isChunk_quasis_iff {tree : Markup.Node} {name : String} {options : Options} {root : Root}
    (h : compileTree tree name options = .ok root)
    (hnames : ∀ n ∈ visited tree, HasPlainNames options n) :
    (∀ b ∈ root.blocks, ∀ q ∈ b.quasis, isChunk q = true) ↔
      splitsSubstitution (shown tree) = false ∧
        ∀ site ∈ sites { name, options } 0 tree,
          splitsSubstitution (shownAll site.nodes) = false := by
  obtain ⟨-, rfl⟩ := compileTree_eq_ok_iff.mp h
  have hblocks := blocks_rootOf_perm tree name options
  -- the block of the template, and those of the sites
  have hroot := isChunk_enclosed_iff name [] (inert_marks { name, options } 0 tree hnames)
    (dollarAfter_marks { name, options } 0 false tree)
  have hsite : ∀ site ∈ sites { name, options } 0 tree,
      ((∀ q ∈ (site.block { name, options }).quasis, isChunk q = true) ↔
        splitsSubstitution (shownAll site.nodes) = false) := by
    intro site hmem
    refine isChunk_enclosed_iff site.name _ (inert_marksAll _ site.seen site.nodes fun n hn => ?_)
      (dollarAfter_marksAll _ site.seen false site.nodes)
    exact hnames n (visited_of_mem_sites _ 0 tree site hmem n hn)
  simp only [hblocks.mem_iff, List.forall_mem_cons, List.forall_mem_map]
  exact and_congr hroot (forall₂_congr hsite)

/-- A substitution split between two texts is opened in the quasi. -/
theorem not_isChunk_dollar_brace :
    compileTree (.block [.text "$", .text "\x7bx\x7d"]) "t" {} =
      .ok ⟨⟨"t", [], ["$\x7bx\x7d"], []⟩, []⟩ ∧
    ¬ ∀ b ∈ (⟨⟨"t", [], ["$\x7bx\x7d"], []⟩, []⟩ : Root).blocks,
        ∀ q ∈ b.quasis, isChunk q = true := by
  have h : compileTree (.block [.text "$", .text "\x7bx\x7d"]) "t" {} =
      .ok ⟨⟨"t", [], ["$\x7bx\x7d"], []⟩, []⟩ := by
    rw [compileTree_eq_ok_iff]
    exact ⟨rfl, rfl⟩
  have hnames : ∀ n ∈ visited (.block [.text "$", .text "\x7bx\x7d"]), HasPlainNames {} n := by
    simp [visited, visitedAll, HasPlainNames]
  refine ⟨h, fun hchunks => ?_⟩
  have hsplit := ((isChunk_quasis_iff h hnames).mp hchunks).1
  exact absurd hsplit (by decide)

end Taglit.Compiled
