import Taglit.Proofs.Compiled.Emission
import Taglit.Proofs.Compiled.Literal
import Taglit.Proofs.Compiled.Outline
import Taglit.Proofs.Compiled.Sequence
import Taglit.Proofs.Text.Chunk

/-!
# Opening tags

The attributes of a tag are written one by one into the draft, and code among them is put into
slots.  The attributes of a mixin that is used are written as one text.  `html_tag_eq_attrs` says
that the two come to the same markup.

Static values stand between double quotes.  `quotes_openTag` says that an opening tag has no other
quotes in its literal text, if names have none and quotes in values are escaped.  So the values can
be read off where the text is split at double quotes.
-/

namespace Taglit.Compiled

open Taglit.Output (Options Placeholders)
open Taglit.Markup.Node (unsupportedIn visited visitedBody)

/-! ## Attributes of tags and of mixins -/

/-- Texts that each follow a space are the texts with spaces between them, after one space. -/
theorem join_map_space {texts : List String} (h : texts ≠ []) :
    String.join (texts.map (" " ++ ·)) = " " ++ " ".intercalate texts := by
  induction texts with
  | nil => exact absurd rfl h
  | cons text texts ih =>
      rw [List.map_cons, String.join_cons]
      by_cases hnil : texts = []
      · rw [hnil, List.map_nil, String.join_nil, String.intercalate_singleton, String.append_empty]
      · rw [ih hnil, String.intercalate_cons_of_ne_nil hnil, String.append_assoc,
          String.append_assoc]

/-- Written one by one, each after a space, attributes are what they are when they are written as
one text. -/
theorem join_markup {attributes : List Attribute} (h : attributes ≠ []) :
    String.join (attributes.map fun a => " " ++ a.markup) = " " ++ attrsText attributes := by
  have hmap : attributes.map (fun a => " " ++ a.markup) =
      (attributes.map Attribute.markup).map (" " ++ ·) := by
    rw [List.map_map]
    rfl
  rw [hmap, join_map_space (by simpa using h), attrsText]

/-- Attributes are not compiled away. -/
theorem compileAttributes_ne_nil (options : Options) {attributes : List Markup.Attribute}
    (h : attributes ≠ []) : compileAttributes options attributes ≠ [] := by
  rw [compileAttributes_eq]
  exact List.append_ne_nil_of_left_ne_nil (by simpa using h) _

/-- The literal of a tree that can be compiled is its direct translation. -/
theorem exists_html_eq_emit {tree : Markup.Node} (h : unsupportedIn (visited tree) = [])
    (tag name : String) (options : Options) :
    ∃ root, compileTree tree name options = .ok root ∧
      root.block.html ⟨tag, options⟩ = emit ⟨tag, options⟩ name 0 tree :=
  ⟨_, compileTree_eq_ok_iff.mpr ⟨h, rfl⟩, html_rootOf ⟨tag, options⟩ name tree⟩

/-- Whatever its template is, the use of a mixin hands it the markup of its attributes. -/
theorem exists_emitCall_eq (tag mixinName : String) (options : Options)
    (attributes : List Attribute) (statements : List String) (html : String) :
    ∃ record : Placeholders Id,
      emitCall ⟨tag, options⟩ mixinName attributes statements html = options.mixins.render record ∧
      record.get? "attrs" = some (attrsText attributes) :=
  ⟨_, rfl, rfl⟩

/-- A tag shows the text that the use of a mixin with the same attributes hands to its template as
`attrs`. -/
theorem html_tag_eq_attrs (tag name tagName mixinName : String) (args : Option String)
    (options : Options) {attributes : List Markup.Attribute} (h : attributes ≠ []) :
    ∃ text,
      (∀ (mixins : Output.Template) (body : Option (List Markup.Node)),
        unsupportedIn (visitedBody body) = [] →
        ∃ call, ∃ record : Placeholders Id,
          compileTree (.mixin mixinName args body true attributes) name { options with mixins } =
            .ok call ∧
          call.block.html ⟨tag, { options with mixins }⟩ =
            "$\x7b" ++ mixins.render record ++ "\x7d" ∧
          record.get? "attrs" = some text) ∧
      (∀ children, ∃ root,
        compileTree (.tag tagName attributes children true) name options = .ok root ∧
        root.block.html ⟨tag, options⟩ = "<" ++ tagName ++ " " ++ text ++ "/>") ∧
      (∀ children, children = none ∨ children = some [] →
        ∃ root, compileTree (.tag tagName attributes children false) name options = .ok root ∧
          root.block.html ⟨tag, options⟩ =
            "<" ++ tagName ++ " " ++ text ++ "></" ++ tagName ++ ">") := by
  have hmarkup := join_markup (compileAttributes_ne_nil options h)
  refine ⟨attrsText (compileAttributes options attributes), fun mixins body hbody => ?_,
    fun children => ?_, fun children hchildren => ?_⟩
  · -- another template for mixins changes no attribute
    have hattributes : compileAttributes { options with mixins } = compileAttributes options :=
      AgreeOnAttributes.compileAttributes_congr ⟨rfl, rfl, rfl, rfl, rfl⟩
    have hvisited : unsupportedIn (visited (.mixin mixinName args body true attributes)) = [] :=
      hbody
    obtain ⟨call, hcall, hhtml⟩ := exists_html_eq_emit hvisited tag name { options with mixins }
    rw [emit, hattributes] at hhtml
    obtain ⟨record, hrecord, hattrs⟩ :=
      exists_emitCall_eq tag mixinName { options with mixins } _ _ _
    rw [hrecord] at hhtml
    exact ⟨call, record, hcall, hhtml, hattrs⟩
  · have hvisited : unsupportedIn (visited (.tag tagName attributes children true)) = [] := rfl
    obtain ⟨root, hroot, hhtml⟩ := exists_html_eq_emit hvisited tag name options
    rw [emit, hmarkup, if_pos rfl, ← String.append_assoc] at hhtml
    exact ⟨root, hroot, hhtml⟩
  · have hvisited : unsupportedIn (visited (.tag tagName attributes children false)) = [] := by
      rcases hchildren with rfl | rfl <;> rfl
    have hbody : emitBody ⟨tag, options⟩ name 0 children = "" := by
      rcases hchildren with rfl | rfl <;> rfl
    obtain ⟨root, hroot, hhtml⟩ := exists_html_eq_emit hvisited tag name options
    have hclose : ">" ++ "" ++ "</" = "></" := rfl
    rw [emit, hmarkup, hbody, if_neg Bool.false_ne_true, hclose] at hhtml
    simp only [String.append_assoc] at hhtml ⊢
    exact ⟨root, hroot, hhtml⟩

/-- A field with a two-way binding, whose companion comes last, and with a value that has to be
escaped. -/
theorem html_tag_eq_attrs_field :
    ∃ text root call,
      compileTree (.tag "input"
        [⟨":value", some (.source "x"), true⟩, ⟨"title", some (.source "'`'"), true⟩] none true)
        "t" {} = .ok root ∧
      root.block.html ⟨"html", {}⟩ = "<" ++ "input" ++ " " ++ text ++ "/>" ∧
      compileTree (.mixin "field" none none true
        [⟨":value", some (.source "x"), true⟩, ⟨"title", some (.source "'`'"), true⟩]) "t"
        { mixins := .function fun record => (record.get? "attrs").getD "" } = .ok call ∧
      call.block.html
          ⟨"html", { mixins := .function fun record => (record.get? "attrs").getD "" }⟩ =
        "$\x7b" ++ text ++ "\x7d" := by
  obtain ⟨text, hcall, htag, -⟩ := html_tag_eq_attrs "html" "t" "input" "field" none {}
    (List.cons_ne_nil ⟨":value", some (.source "x"), true⟩ [⟨"title", some (.source "'`'"), true⟩])
  obtain ⟨root, hroot, hhtml⟩ := htag none
  obtain ⟨call, record, hcall, hhtml', hattrs⟩ :=
    hcall (.function fun record => (record.get? "attrs").getD "") none rfl
  refine ⟨text, root, call, hroot, hhtml, hcall, hhtml'.trans ?_⟩
  rw [Output.Template.render, hattrs]
  rfl

/-! ## The literal text of an opening tag -/

namespace Draft

/-- The literal markup that has been written: the quasis, and what is pending after them. -/
def segments (draft : Draft) : List String :=
  draft.target.quasis ++ [draft.pending]

/-- Write an opening tag. -/
def openTag (options : Options) (name : String) (attributes : List Markup.Attribute)
    (selfClosing : Bool) (draft : Draft) : Draft :=
  ((compileAttributes options attributes).foldl writeAttribute (draft.write ("<" ++ name))).write
    (if selfClosing then "/>" else ">")

end Draft

/-- A tag is compiled by writing its opening tag and then, unless it closes itself, its children and
the closing tag. -/
theorem lower_tag (scope : Scope) (nested : Bool) (name : String)
    (attributes : List Markup.Attribute) (children : Option (List Markup.Node)) (selfClosing : Bool)
    (draft : Draft) :
    lower scope nested (.tag name attributes children selfClosing) draft =
      if selfClosing then .ok (draft.openTag scope.options name attributes selfClosing)
      else (lowerBody scope nested children
        (draft.openTag scope.options name attributes selfClosing)).map
        (·.write ("</" ++ name ++ ">")) := by
  rw [lower]
  cases selfClosing with
  | true => rfl
  | false =>
      rw [if_neg Bool.false_ne_true]
      show (lowerBody scope nested children (draft.openTag scope.options name attributes false) >>=
        fun filled => pure (filled.write ("</" ++ name ++ ">"))) = _
      cases lowerBody scope nested children (draft.openTag scope.options name attributes false) <;>
        rfl

/-- The literal text of an opening tag, cut where code stands in it. -/
def openingText (options : Options) (name : String) (attributes : List Markup.Attribute)
    (selfClosing : Bool) : List String :=
  ((Draft.fresh 0).openTag options name attributes selfClosing).segments

/-- The marks of an opening tag. -/
def openingMarks (name : String) (attributes : List Attribute) (close : String) : List Mark :=
  .markup ("<" ++ name) :: (attributes.flatMap Attribute.marks ++ [.markup close])

/-- Writing an opening tag draws its marks. -/
theorem Draft.openTag_eq_draw (options : Options) (name : String)
    (attributes : List Markup.Attribute) (selfClosing : Bool) (draft : Draft) :
    draft.openTag options name attributes selfClosing =
      draft.draw (openingMarks name (compileAttributes options attributes)
        (if selfClosing then "/>" else ">")) := by
  rw [openTag, write_eq_draw, foldl_writeAttribute_eq_draw, write_eq_draw, draw_draw, draw_draw]
  rfl

/-- The literal text of an opening tag is cut where its marks have slots. -/
theorem openingText_eq (options : Options) (name : String) (attributes : List Markup.Attribute)
    (selfClosing : Bool) :
    openingText options name attributes selfClosing =
      finished "" (openingMarks name (compileAttributes options attributes)
          (if selfClosing then "/>" else ">")) ++
        [remaining "" (openingMarks name (compileAttributes options attributes)
          (if selfClosing then "/>" else ">"))] := by
  rw [openingText, Draft.openTag_eq_draw]
  rfl

/-- Wherever a tag stands, its opening tag goes on from what is pending there. -/
theorem Draft.segments_openTag (options : Options) (name : String)
    (attributes : List Markup.Attribute) (selfClosing : Bool) (draft : Draft) :
    (draft.openTag options name attributes selfClosing).segments =
      glue draft.segments (openingText options name attributes selfClosing) := by
  rw [openingText_eq, segments, segments, ← append_glue, ← segments_eq_glue, openTag_eq_draw,
    ← List.append_assoc]
  rfl

/-- The literal text of a mark. -/
def Mark.literal : Mark → String
  | .markup value => value
  | .text value => Text.escapeTemplate value
  | .slot _ => ""

/-- Joined again, what slots have cut apart is the literal text of the marks. -/
theorem join_segments (pending : String) (marks : List Mark) :
    String.join (finished pending marks ++ [remaining pending marks]) =
      pending ++ String.join (marks.map Mark.literal) := by
  induction marks generalizing pending with
  | nil => simp [finished, remaining]
  | cons mark marks ih =>
      rw [List.map_cons, String.join_cons]
      cases mark with
      | markup value => rw [finished, remaining, ih, Mark.literal, String.append_assoc]
      | text value => rw [finished, remaining, ih, Mark.literal, String.append_assoc]
      | slot piece =>
          rw [finished, remaining, List.cons_append, String.join_cons, ih, Mark.literal]

/-- The literal text of an attribute in a tag. -/
def Attribute.literal (a : Attribute) : String :=
  " " ++ a.name ++ match a.content with
    | .bare => ""
    | .static text => "=\"" ++ Text.escapeTemplate text ++ "\""
    | .code _ => "="

/-- The literal text of attributes, mark by mark or attribute by attribute. -/
theorem join_literal_marks (attributes : List Attribute) :
    String.join ((attributes.flatMap Attribute.marks).map Mark.literal) =
      String.join (attributes.map Attribute.literal) := by
  induction attributes with
  | nil => rfl
  | cons a attributes ih =>
      have ha : String.join (a.marks.map Mark.literal) = a.literal := by
        obtain ⟨name, content⟩ := a
        cases content <;>
          simp [Attribute.marks, Attribute.literal, Mark.literal, String.append_assoc]
      rw [List.flatMap_cons, List.map_append, String.join_append, ha, ih, List.map_cons,
        String.join_cons]

/-- The literal text of an opening tag as a whole, with nothing where code stands. -/
theorem join_openingText (options : Options) (name : String) (attributes : List Markup.Attribute)
    (selfClosing : Bool) :
    String.join (openingText options name attributes selfClosing) =
      "<" ++ name ++ String.join ((compileAttributes options attributes).map Attribute.literal) ++
        if selfClosing then "/>" else ">" := by
  rw [openingText_eq, join_segments, openingMarks, List.map_cons, List.map_append, String.join_cons,
    String.join_append, join_literal_marks]
  simp [Mark.literal, String.append_assoc]

/-! ## Quotes -/

/-- Whether a text has no quotes of either kind. -/
def isUnquoted (text : String) : Bool :=
  text.toList.all fun c => c != '"' && c != '\''

/-- Quotes in two texts, one after the other. -/
theorem isUnquoted_append (s t : String) :
    isUnquoted (s ++ t) = (isUnquoted s && isUnquoted t) := by
  rw [isUnquoted, String.toList_append, List.all_append, isUnquoted, isUnquoted]

/-- A text without quotes has quotes of neither kind. -/
theorem not_mem_of_isUnquoted {text : String} (h : isUnquoted text = true) :
    '"' ∉ text.toList ∧ '\'' ∉ text.toList := by
  simp only [isUnquoted, List.all_eq_true, Bool.and_eq_true, bne_iff_ne] at h
  exact ⟨fun hmem => (h _ hmem).1 rfl, fun hmem => (h _ hmem).2 rfl⟩

/-- Escaped as an attribute value, a text has no quotes left. -/
theorem isUnquoted_escapeAttribute (text : String) :
    isUnquoted (Text.escapeAttribute text) = true := by
  rw [isUnquoted, Text.escapeAttribute, String.toList_ofList, List.all_flatMap, List.all_eq_true]
  intro c _
  unfold Text.escapeAttributeChar
  split
  · decide
  · decide
  · next hsingle hdouble => simpa using ⟨hdouble, hsingle⟩

/-- Escaping a text for a template literal adds no quotes. -/
theorem isUnquoted_escapeTemplate {text : String} (h : isUnquoted text = true) :
    isUnquoted (Text.escapeTemplate text) = true := by
  rw [isUnquoted, List.all_eq_true] at h ⊢
  intro c hc
  rw [Text.escapeTemplate, String.toList_ofList] at hc
  rcases Text.eq_or_mem_of_mem_escapeTemplateChars hc with rfl | hc
  · decide
  · exact h c hc

/-- The static text of an attribute. -/
def Attribute.static? (a : Attribute) : Option String :=
  match a.content with
  | .static text => some text
  | _ => none

/-- A static text that a plain name contributes is that of a quoted value. -/
theorem exists_staticText_of_plainContent {options : Options} {a : Markup.Attribute} {text : String}
    (h : plainContent options a = .static text) : ∃ value, text = staticText options a value := by
  unfold plainContent at h
  split at h
  · cases h
  · cases h
  · cases h
  · split at h
    · cases h
      exact ⟨_, rfl⟩
    · cases h

/-- A shorthand is code. -/
theorem content_primary (options : Options) (a : Markup.Attribute) :
    (primary options a).content = plainContent options a ∨
      ∃ source, (primary options a).content = .code source := by
  simp only [primary, classify]
  split
  · exact .inr ⟨_, rfl⟩
  · split
    · split
      · exact .inr ⟨_, rfl⟩
      · exact .inr ⟨_, rfl⟩
    · split
      · exact .inr ⟨_, rfl⟩
      · exact .inl rfl

/-- A companion is code. -/
theorem content_companion? {options : Options} {a : Markup.Attribute} {b : Attribute}
    (h : companion? options a = some b) : ∃ source, b.content = .code source := by
  simp only [companion?, classify] at h
  split at h
  · cases h
  · split at h
    · split at h
      · cases h
        exact ⟨_, rfl⟩
      · cases h
    · split at h
      · cases h
        exact ⟨_, rfl⟩
      · cases h

/-- A static text comes from the value of an attribute. -/
theorem exists_staticText {options : Options} {attributes : List Markup.Attribute} {b : Attribute}
    {text : String} (hb : b ∈ compileAttributes options attributes)
    (htext : b.content = .static text) :
    ∃ a ∈ attributes, ∃ value, text = staticText options a value := by
  rw [compileAttributes_eq, List.mem_append, List.mem_map, List.mem_filterMap] at hb
  rcases hb with ⟨a, ha, rfl⟩ | ⟨a, -, hcompanion⟩
  · rcases content_primary options a with hplain | ⟨source, hcode⟩
    · exact ⟨a, ha, exists_staticText_of_plainContent (hplain.symm.trans htext)⟩
    · rw [hcode] at htext
      cases htext
  · obtain ⟨source, hcode⟩ := content_companion? hcompanion
    rw [hcode] at htext
    cases htext

/-- An attribute has no quotes but those that delimit its static text. -/
structure Attribute.Unquoted (a : Attribute) : Prop where
  name : isUnquoted a.name = true
  static : ∀ text, a.content = .static text → isUnquoted (Text.escapeTemplate text) = true

/-- The literal text of such an attribute has no single quote. -/
theorem Attribute.Unquoted.not_mem_literal {a : Attribute} (h : a.Unquoted) :
    '\'' ∉ a.literal.toList := by
  have hname := (not_mem_of_isUnquoted h.name).2
  obtain ⟨name, content⟩ := a
  cases content with
  | bare => simpa [literal] using hname
  | static text => simpa [literal, (not_mem_of_isUnquoted (h.static text rfl)).2] using hname
  | code source => simpa [literal] using hname

/-- If quotes in values are escaped, then no static text has any. -/
theorem unquoted_of_mem_compileAttributes {options : Options} {attributes : List Markup.Attribute}
    (hoptions : options.escapeAttributes = true) (hescape : ∀ a ∈ attributes, a.mustEscape = true)
    (hnames : ∀ a ∈ compileAttributes options attributes, isUnquoted a.name = true) :
    ∀ a ∈ compileAttributes options attributes, a.Unquoted := by
  intro b hb
  refine ⟨hnames b hb, fun text htext => ?_⟩
  obtain ⟨a, ha, value, rfl⟩ := exists_staticText hb htext
  rw [staticText, hescape a ha, hoptions, Bool.and_self, if_pos rfl]
  exact isUnquoted_escapeTemplate (isUnquoted_escapeAttribute value)

/-- The literal text of attributes between `before` and `close`, cut at the quotes around static
texts.  What stands outside the quotes and what stands inside come by turns. -/
def cutAtQuotes (before close : String) : List Attribute → List String
  | [] => [before ++ close]
  | ⟨name, .bare⟩ :: attributes => cutAtQuotes (before ++ " " ++ name) close attributes
  | ⟨name, .static text⟩ :: attributes =>
    (before ++ " " ++ name ++ "=") :: Text.escapeTemplate text :: cutAtQuotes "" close attributes
  | ⟨name, .code _⟩ :: attributes => cutAtQuotes (before ++ " " ++ name ++ "=") close attributes

/-- Every second item of a list, from the second on. -/
def everySecond {α : Type} : List α → List α
  | _ :: x :: xs => x :: everySecond xs
  | _ => []

/-- Every second item is taken by its place alone. -/
theorem everySecond_map {α β : Type} (f : α → β) (xs : List α) :
    everySecond (xs.map f) = (everySecond xs).map f := by
  fun_induction everySecond xs with
  | case1 x y xs ih => exact congrArg (f y :: ·) ih
  | case2 xs hxs =>
      match xs with
      | [] => rfl
      | [x] => rfl
      | x :: y :: xs => exact absurd rfl (hxs x y xs)

/-- There is always a last piece. -/
theorem cutAtQuotes_ne_nil (before close : String) (attributes : List Attribute) :
    cutAtQuotes before close attributes ≠ [] := by
  fun_induction cutAtQuotes before close attributes with
  | case1 => exact List.cons_ne_nil _ _
  | case2 before name attributes ih => exact ih
  | case3 before name text attributes _ => exact List.cons_ne_nil _ _
  | case4 before name source attributes ih => exact ih

/-- With the quotes put back, the pieces are the literal text. -/
theorem intercalate_cutAtQuotes (before close : String) (attributes : List Attribute) :
    "\"".intercalate (cutAtQuotes before close attributes) =
      before ++ String.join (attributes.map Attribute.literal) ++ close := by
  fun_induction cutAtQuotes before close attributes with
  | case1 before => simp
  | case2 before name attributes ih =>
      rw [ih]
      simp [Attribute.literal, String.append_assoc]
  | case3 before name text attributes ih =>
      rw [String.intercalate_cons_cons,
        String.intercalate_cons_of_ne_nil (cutAtQuotes_ne_nil _ _ _), ih]
      have hopen : "=\"" = "=" ++ "\"" := rfl
      simp [Attribute.literal, hopen, String.append_assoc, -String.reduceAppend]
  | case4 before name source attributes ih =>
      rw [ih]
      simp [Attribute.literal, String.append_assoc]

/-- The pieces inside quotes are the static texts. -/
theorem everySecond_cutAtQuotes (before close : String) (attributes : List Attribute) :
    everySecond (cutAtQuotes before close attributes) =
      (attributes.filterMap Attribute.static?).map Text.escapeTemplate := by
  fun_induction cutAtQuotes before close attributes with
  | case1 => rfl
  | case2 before name attributes ih => exact ih
  | case3 before name text attributes ih => exact congrArg (Text.escapeTemplate text :: ·) ih
  | case4 before name source attributes ih => exact ih

/-- No piece has quotes of its own. -/
theorem isUnquoted_of_mem_cutAtQuotes {before close : String} {attributes : List Attribute}
    (hbefore : isUnquoted before = true) (hclose : isUnquoted close = true)
    (h : ∀ a ∈ attributes, a.Unquoted) :
    ∀ piece ∈ cutAtQuotes before close attributes, isUnquoted piece = true := by
  fun_induction cutAtQuotes before close attributes with
  | case1 before => simp [isUnquoted_append, hbefore, hclose]
  | case2 before name attributes ih =>
      obtain ⟨ha, hrest⟩ := List.forall_mem_cons.mp h
      refine ih ?_ hrest
      rw [isUnquoted_append, isUnquoted_append, hbefore, ha.name]
      rfl
  | case3 before name text attributes ih =>
      obtain ⟨ha, hrest⟩ := List.forall_mem_cons.mp h
      refine List.forall_mem_cons.mpr ⟨?_,
        List.forall_mem_cons.mpr ⟨ha.static text rfl, ih rfl hrest⟩⟩
      rw [isUnquoted_append, isUnquoted_append, isUnquoted_append, hbefore, ha.name]
      rfl
  | case4 before name source attributes ih =>
      obtain ⟨ha, hrest⟩ := List.forall_mem_cons.mp h
      refine ih ?_ hrest
      rw [isUnquoted_append, isUnquoted_append, isUnquoted_append, hbefore, ha.name]
      rfl

/-- In every part of the text that code does not interrupt, the quotes are balanced. -/
theorem even_count_segments {pending close : String} {attributes : List Attribute}
    (hpending : Even (pending.toList.count '"')) (hclose : isUnquoted close = true)
    (h : ∀ a ∈ attributes, a.Unquoted) :
    ∀ q ∈ finished pending (attributes.flatMap Attribute.marks ++ [.markup close]) ++
        [remaining pending (attributes.flatMap Attribute.marks ++ [.markup close])],
      Even (q.toList.count '"') := by
  have hzero {text : String} (htext : isUnquoted text = true) : text.toList.count '"' = 0 :=
    List.count_eq_zero.mpr (not_mem_of_isUnquoted htext).1
  induction attributes generalizing pending with
  | nil => simpa [finished, remaining, hzero hclose] using hpending
  | cons a attributes ih =>
      obtain ⟨ha, hrest⟩ := List.forall_mem_cons.mp h
      have hname := hzero ha.name
      obtain ⟨name, content⟩ := a
      cases content with
      | bare =>
          refine ih ?_ hrest
          simpa [hname] using hpending
      | static text =>
          -- the quotes around the text are two more
          refine ih ?_ hrest
          simpa [hname, hzero (ha.static text rfl), parity_simps] using hpending
      | code source =>
          -- the part ends here, and the next one starts with nothing
          refine List.forall_mem_cons.mpr ⟨?_, ih (by simp) hrest⟩
          simpa [hname] using hpending

/-- What the quotes of an opening tag are, if names have none and quotes in values are escaped.

* The literal text of the opening tag goes on from what is pending where the tag stands, whatever
  stands there and whatever its children are.
* Single quotes do not occur.  Between two pieces of code, double quotes are balanced.
* Split at double quotes, the text has the static values at every second place, in order and escaped
  as text of a template literal. -/
theorem quotes_openTag (scope : Scope) {name : String} {attributes : List Markup.Attribute}
    (selfClosing : Bool) (hoptions : scope.options.escapeAttributes = true)
    (hescape : ∀ a ∈ attributes, a.mustEscape = true) (hname : isUnquoted name = true)
    (hnames : ∀ a ∈ compileAttributes scope.options attributes, isUnquoted a.name = true) :
    (∀ (nested : Bool) (children : Option (List Markup.Node)) (draft : Draft),
      (lower scope nested (.tag name attributes children selfClosing) draft =
        if selfClosing then .ok (draft.openTag scope.options name attributes selfClosing)
        else (lowerBody scope nested children
          (draft.openTag scope.options name attributes selfClosing)).map
          (·.write ("</" ++ name ++ ">"))) ∧
      (draft.openTag scope.options name attributes selfClosing).segments =
        glue draft.segments (openingText scope.options name attributes selfClosing)) ∧
    (∀ q ∈ openingText scope.options name attributes selfClosing,
      '\'' ∉ q.toList ∧ Even (q.toList.count '"')) ∧
    (String.join (openingText scope.options name attributes selfClosing)).toList.splitOn '"' =
      (cutAtQuotes ("<" ++ name) (if selfClosing then "/>" else ">")
        (compileAttributes scope.options attributes)).map String.toList ∧
    everySecond
        ((String.join (openingText scope.options name attributes selfClosing)).toList.splitOn '"') =
      ((compileAttributes scope.options attributes).filterMap Attribute.static?).map
        fun text => (Text.escapeTemplate text).toList := by
  have hattributes := unquoted_of_mem_compileAttributes hoptions hescape hnames
  have hbefore : isUnquoted ("<" ++ name) = true := by
    rw [isUnquoted_append, hname]
    rfl
  have hclose : isUnquoted (if selfClosing then "/>" else ">") = true := by
    cases selfClosing <;> rfl
  have hpieces := isUnquoted_of_mem_cutAtQuotes hbefore hclose hattributes
  have htext := intercalate_cutAtQuotes ("<" ++ name) (if selfClosing then "/>" else ">")
    (compileAttributes scope.options attributes)
  rw [← join_openingText] at htext
  -- the pieces have no double quotes, so the quotes put between them are where the text is split
  have hsplit :
      (String.join (openingText scope.options name attributes selfClosing)).toList.splitOn '"' =
        (cutAtQuotes ("<" ++ name) (if selfClosing then "/>" else ">")
          (compileAttributes scope.options attributes)).map String.toList := by
    rw [← htext, String.toList_intercalate]
    refine List.splitOn_intercalate '"' (List.forall_mem_map.mpr fun piece hpiece => ?_)
      (by simpa using cutAtQuotes_ne_nil _ _ _)
    exact (not_mem_of_isUnquoted (hpieces piece hpiece)).1
  refine ⟨fun nested children draft => ⟨lower_tag .., Draft.segments_openTag ..⟩,
    fun q hq => ⟨?_, ?_⟩, hsplit, ?_⟩
  · -- a single quote would stand in the name, in an attribute or in the closing mark
    intro hmem
    have hjoin :
        '\'' ∈ (String.join (openingText scope.options name attributes selfClosing)).toList := by
      rw [String.toList_join]
      exact List.mem_flatMap.mpr ⟨q, hq, hmem⟩
    rw [join_openingText, String.toList_append, String.toList_append, String.toList_join,
      List.mem_append, List.mem_append, List.mem_flatMap] at hjoin
    rcases hjoin with (hmem | ⟨_, hliteral, hmem⟩) | hmem
    · exact (not_mem_of_isUnquoted hbefore).2 hmem
    · obtain ⟨a, ha, rfl⟩ := List.mem_map.mp hliteral
      exact (hattributes a ha).not_mem_literal hmem
    · exact (not_mem_of_isUnquoted hclose).2 hmem
  · rw [openingText_eq] at hq
    refine even_count_segments ?_ hclose hattributes q hq
    rw [String.empty_append, List.count_eq_zero.mpr (not_mem_of_isUnquoted hbefore).1]
    exact Even.zero
  · rw [hsplit, everySecond_map, everySecond_cutAtQuotes, List.map_map]
    rfl

/-- A value with an escaped quote of its own, and code after it. -/
theorem quotes_openTag_title :
    (compileAttributes {} [⟨"title", some (.source "'a\\\"b'"), true⟩,
      ⟨"class", some (.source "names"), true⟩] =
      [⟨"title", .static "a&quot;b"⟩, ⟨"class", .code "names"⟩]) ∧
    everySecond ((String.join (openingText {} "p" [⟨"title", some (.source "'a\\\"b'"), true⟩,
      ⟨"class", some (.source "names"), true⟩] false)).toList.splitOn '"') =
        ["a&quot;b".toList] := by
  have hspells : Json.Spells "a\\\"b".toList "a\"b".toList :=
    .char (by decide) (by decide) (by decide) (@Json.Spells.escape ['"'] _ _ _ (.short (by decide))
      (.char (by decide) (by decide) (by decide) .nil))
  have hliteral : literalOf? "'a\\\"b'".toList = some "a\"b" :=
    literalOf?_eq_some_iff.mpr
      ⟨⟨'\'', _, _, '\'', [], .inr rfl, hspells, List.forall_mem_nil _, .inr ⟨rfl, rfl⟩⟩, rfl, rfl⟩
  have htitle : primary {} ⟨"title", some (.source "'a\\\"b'"), true⟩ =
      ⟨"title", .static "a&quot;b"⟩ := by
    rw [primary_of_isPlain (by decide), plainContent]
    dsimp only
    rw [hliteral]
    rfl
  have hcompile : compileAttributes {}
      [⟨"title", some (.source "'a\\\"b'"), true⟩, ⟨"class", some (.source "names"), true⟩] =
        [⟨"title", .static "a&quot;b"⟩, ⟨"class", .code "names"⟩] := by
    rw [compileAttributes_eq, List.map_cons, htitle]
    rfl
  have hescape : ∀ a ∈ ([⟨"title", some (.source "'a\\\"b'"), true⟩,
      ⟨"class", some (.source "names"), true⟩] : List Markup.Attribute), a.mustEscape = true := by
    decide
  have hname : isUnquoted "p" = true := rfl
  obtain ⟨-, -, -, hvalues⟩ :=
    quotes_openTag ⟨"t", {}⟩ false rfl hescape hname (by rw [hcompile]; decide)
  refine ⟨hcompile, hvalues.trans ?_⟩
  rw [hcompile]
  rfl

end Taglit.Compiled
