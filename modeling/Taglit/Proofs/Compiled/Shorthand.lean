import Taglit.Proofs.Compiled.Attributes
import Taglit.Proofs.Output.Filled
import Mathlib.Data.List.Basic

/-!
# Shorthands for attributes

An event is written `@name`, `(name)` or `onname`, a property `.name` or `[name]`, and a two-way
binding is a property around an event, or `:name`.  A shorthand may or may not have its closing
mark, and a name may hold any of the marks itself, so that one name could be taken apart in several
ways.

`compileAttributes_spellings` says that the spellings of one binding mean the same, as long as the
name does not end with a mark that closes one of them.  `companion?_eq` says which attributes bring
a companion along: those that bind both ways, whose names `isTwoWay` has.
-/

namespace Taglit.Compiled

open Taglit.Output
  (Options Segment Placeholder Placeholders segmentsOf consLiteral isTokenHead isTokenTail
  render_ofSource)

/-! ## What a shorthand surrounds -/

/-- Characters that a shorthand can surround: at least one, and no blank. -/
structure Surroundable (cs : List Char) : Prop where
  ne_nil : cs ≠ []
  not_blank : ∀ c ∈ cs, Text.isBlank c = false

/-- Two texts that can be surrounded can be surrounded together. -/
theorem Surroundable.append {xs ys : List Char} (hx : Surroundable xs) (hy : Surroundable ys) :
    Surroundable (xs ++ ys) where
  ne_nil := List.append_ne_nil_of_left_ne_nil hx.ne_nil ys
  not_blank c hc := (List.mem_append.mp hc).elim (hx.not_blank c) (hy.not_blank c)

/-- Whether characters can be surrounded is what a shorthand checks. -/
theorem surroundable_iff {cs : List Char} :
    Surroundable cs ↔ cs ≠ [] ∧ cs.any Text.isBlank = false := by
  simp only [List.any_eq_false, Bool.not_eq_true]
  exact ⟨fun h => ⟨h.ne_nil, h.not_blank⟩, fun h => ⟨h.1, h.2⟩⟩

/-- Of what can be surrounded, the closing mark is taken off if there is one. -/
theorem surrounded?_eq {cs : List Char} (h : Surroundable cs) (close : Char) :
    surrounded? close cs =
      if cs.getLast? = some close ∧ 1 < cs.length then some cs.dropLast else some cs := by
  obtain ⟨hne, hblank⟩ := surroundable_iff.mp h
  have hempty : cs.isEmpty = false := List.isEmpty_eq_false_iff.mpr hne
  rw [surrounded?, hempty, hblank]
  simp

/-- Without the closing mark at the end, nothing is taken off. -/
theorem surrounded?_of_open {cs : List Char} (h : Surroundable cs) {close : Char}
    (hlast : cs.getLast? ≠ some close) : surrounded? close cs = some cs := by
  rw [surrounded?_eq h, if_neg fun hclose => hlast hclose.1]

/-- The closing mark is taken off, whatever stands before it. -/
theorem surrounded?_concat {cs : List Char} (h : Surroundable cs) {close : Char}
    (hclose : Text.isBlank close = false) : surrounded? close (cs ++ [close]) = some cs := by
  have hmark : Surroundable [close] := ⟨List.cons_ne_nil _ _, by simpa using hclose⟩
  have hlength : 1 < (cs ++ [close]).length := by
    have hpos := List.length_pos_iff.mpr h.ne_nil
    rw [List.length_append, List.length_singleton]
    omega
  rw [surrounded?_eq (h.append hmark), if_pos ⟨List.getLast?_concat, hlength⟩, List.dropLast_concat]

/-! ## Spellings -/

/-- The ways to write an event. -/
def eventSpellings (name : String) : List String :=
  ["@" ++ name, "(" ++ name ++ ")", "on" ++ name]

/-- The ways to write a property. -/
def propertySpellings (name : String) : List String :=
  ["." ++ name, "[" ++ name ++ "]"]

/-- The ways to write a two-way binding as a property around an event. -/
def twoWaySpellings (name : String) : List String :=
  (eventSpellings name).flatMap propertySpellings

section

variable {name s : String}

/-- Every way to write an event is read as one. -/
theorem eventOf?_spelling (hname : Surroundable name.toList)
    (hlast : name.toList.getLast? ≠ some ')') (hs : s ∈ eventSpellings name) :
    eventOf? s.toList = some name.toList := by
  simp only [eventSpellings, List.mem_cons, List.not_mem_nil, or_false] at hs
  rcases hs with rfl | rfl | rfl <;> simp only [String.toList_append]
  · exact surrounded?_of_open hname hlast
  · exact surrounded?_concat hname rfl
  · exact surrounded?_of_open hname hlast

/-- Every way to write a property is read as one. -/
theorem propertyOf?_spelling (hname : Surroundable name.toList)
    (hlast : name.toList.getLast? ≠ some ']') (hs : s ∈ propertySpellings name) :
    propertyOf? s.toList = some name.toList := by
  simp only [propertySpellings, List.mem_cons, List.not_mem_nil, or_false] at hs
  rcases hs with rfl | rfl <;> simp only [String.toList_append]
  · exact surrounded?_of_open hname hlast
  · exact surrounded?_concat hname rfl

/-- A property can be written around an event. -/
theorem Surroundable.eventSpelling (hname : Surroundable name.toList)
    (hs : s ∈ eventSpellings name) : Surroundable s.toList := by
  simp only [eventSpellings, List.mem_cons, List.not_mem_nil, or_false] at hs
  rcases hs with rfl | rfl | rfl <;> simp only [String.toList_append]
  · exact .append (surroundable_iff.mpr ⟨by decide, rfl⟩) hname
  · have hopen : Surroundable ("(".toList ++ name.toList) :=
      .append (surroundable_iff.mpr ⟨by decide, rfl⟩) hname
    exact hopen.append (surroundable_iff.mpr ⟨by decide, rfl⟩)
  · exact .append (surroundable_iff.mpr ⟨by decide, rfl⟩) hname

/-- The mark that closes an event is not the one that closes a property. -/
theorem getLast?_eventSpelling (hname : Surroundable name.toList)
    (hlast : name.toList.getLast? ≠ some ']') (hs : s ∈ eventSpellings name) :
    s.toList.getLast? ≠ some ']' := by
  simp only [eventSpellings, List.mem_cons, List.not_mem_nil, or_false] at hs
  rcases hs with rfl | rfl | rfl <;> simp only [String.toList_append]
  · rwa [List.getLast?_append_of_ne_nil _ hname.ne_nil]
  · rw [List.getLast?_append_of_ne_nil _ (by decide)]
    decide
  · rwa [List.getLast?_append_of_ne_nil _ hname.ne_nil]

end

/-! ## Names that bind both ways -/

/-- No property is an event: the marks that open them differ. -/
theorem eventOf?_of_propertyOf? {cs inner : List Char} (h : propertyOf? cs = some inner) :
    eventOf? cs = none := by
  unfold propertyOf? at h
  split at h
  · rfl
  · rfl
  · cases h

/-- What is compiled of a property around an event. -/
theorem classify_twoWay (options : Options) (a : Markup.Attribute) {inner property : List Char}
    (hinner : propertyOf? a.name.toList = some inner) (hproperty : eventOf? inner = some property) :
    classify options a = twoWay options (sourceOf a.value) (.ofList property)
      (options.bindingEvent (.ofList property)) := by
  simp only [classify, eventOf?_of_propertyOf? hinner, hinner, hproperty]

/-- What is compiled of the short form of a two-way binding. -/
theorem classify_colon (options : Options) (a : Markup.Attribute) {property : List Char}
    (hname : a.name.toList = ':' :: property) :
    classify options a =
      twoWay options (sourceOf a.value) (.ofList property) (options.eventName "input") := by
  have hevent : eventOf? (':' :: property) = none := rfl
  have hproperty : propertyOf? (':' :: property) = none := rfl
  simp only [classify, hname, hevent, hproperty]

/-- Whether a name binds both ways: a property around an event, or the short form. -/
def isTwoWay (name : String) : Bool :=
  ((propertyOf? name.toList).bind eventOf?).isSome || name.toList.head? == some ':'

/-- The event that writes back what an attribute binds, if it binds both ways. -/
def writeBackOf? (options : Options) (a : Markup.Attribute) : Option Attribute :=
  match (propertyOf? a.name.toList).bind eventOf?, a.name.toList with
  | some property, _ =>
    some ⟨options.bindingEvent (.ofList property),
      .code (writeBack (sourceOf a.value) (.ofList property))⟩
  | none, ':' :: property =>
    some ⟨options.eventName "input", .code (writeBack (sourceOf a.value) (.ofList property))⟩
  | none, _ => none

/-- There is an event that writes back where the name binds both ways. -/
theorem isSome_writeBackOf? (options : Options) (a : Markup.Attribute) :
    (writeBackOf? options a).isSome = isTwoWay a.name := by
  rw [writeBackOf?, isTwoWay]
  split
  · next hbinding => simp [hbinding]
  · next hname => simp [hname]
  · next hbinding hname =>
      have hhead : a.name.toList.head? ≠ some ':' := by
        intro hhead
        obtain ⟨property, hcolon⟩ := List.head?_eq_some_iff.mp hhead
        exact hname property hcolon
      simp [hbinding, hhead]

/-- The companions are the events that write back, and nothing else. -/
theorem companion?_eq (options : Options) (a : Markup.Attribute) :
    companion? options a = writeBackOf? options a := by
  rw [writeBackOf?]
  split
  · next hbinding =>
      obtain ⟨inner, hinner, hproperty⟩ := Option.bind_eq_some_iff.mp hbinding
      rw [companion?, classify_twoWay options a hinner hproperty, twoWay]
  · next hname => rw [companion?, classify_colon options a hname, twoWay]
  · -- neither form: an event has no companion, and a property around no event has none either
    next hbinding hname =>
      simp only [companion?, classify]
      split
      · rfl
      · split
        · next inner hinner =>
            rw [hinner, Option.bind_some] at hbinding
            rw [hbinding]
        · rfl

/-! ## One meaning -/

/-- A single attribute is compiled into what it means and its companion. -/
theorem compileAttributes_singleton (options : Options) (a : Markup.Attribute) :
    compileAttributes options [a] = (classify options a).1 :: (classify options a).2.toList := by
  change _ = primary options a :: (companion? options a).toList
  rw [compileAttributes_eq]
  cases hcompanion : companion? options a <;> simp [hcompanion]

/-- All spellings of one binding are compiled into the same. -/
theorem compileAttributes_spellings (options : Options) (value : Option Markup.Value)
    (mustEscape : Bool) (name : String) (hname : name ≠ "")
    (hblank : ∀ c ∈ name.toList, Text.isBlank c = false) :
    (name.toList.getLast? ≠ some ')' → ∀ s ∈ eventSpellings name,
      compileAttributes options [⟨s, value, mustEscape⟩] =
        [⟨options.eventName name, .code (options.eventHandler (sourceOf value))⟩]) ∧
    (name.toList.getLast? ≠ some ']' → ∀ s ∈ propertySpellings name, ∀ t ∈ propertySpellings name,
      compileAttributes options [⟨s, value, mustEscape⟩] =
        compileAttributes options [⟨t, value, mustEscape⟩]) ∧
    (name.toList.getLast? ≠ some ')' → name.toList.getLast? ≠ some ']' →
      (∀ s ∈ twoWaySpellings name, compileAttributes options [⟨s, value, mustEscape⟩] =
        [⟨options.propertyName name, .code (sourceOf value)⟩,
          ⟨options.bindingEvent name,
            .code ("e => " ++ sourceOf value ++ " = e.target." ++ name)⟩]) ∧
      (options.bindingEvent name = options.eventName "input" →
        compileAttributes options [⟨":" ++ name, value, mustEscape⟩] =
          [⟨options.propertyName name, .code (sourceOf value)⟩,
            ⟨options.bindingEvent name,
              .code ("e => " ++ sourceOf value ++ " = e.target." ++ name)⟩])) := by
  have hcs : Surroundable name.toList := ⟨by simpa using hname, hblank⟩
  refine ⟨fun hlast s hs => ?_, fun hlast s hs t ht => ?_,
    fun hlast hlast' => ⟨fun s hs => ?_, fun hevent => ?_⟩⟩
  · have hclassify : classify options ⟨s, value, mustEscape⟩ =
        (⟨options.eventName name, .code (options.eventHandler (sourceOf value))⟩, none) := by
      simp only [classify, eventOf?_spelling hcs hlast hs, String.ofList_toList]
    rw [compileAttributes_singleton, hclassify]
    rfl
  · have hs := propertyOf?_spelling hcs hlast hs
    have ht := propertyOf?_spelling hcs hlast ht
    rw [compileAttributes_singleton, compileAttributes_singleton]
    simp only [classify, eventOf?_of_propertyOf? hs, eventOf?_of_propertyOf? ht, hs, ht]
  · obtain ⟨event, hevent, hs⟩ := List.mem_flatMap.mp hs
    -- the outer marks come off first, and what is left is a spelling of the event
    have hinner :=
      propertyOf?_spelling (hcs.eventSpelling hevent) (getLast?_eventSpelling hcs hlast' hevent) hs
    have hproperty := eventOf?_spelling hcs hlast hevent
    rw [compileAttributes_singleton,
      classify_twoWay options ⟨s, value, mustEscape⟩ hinner hproperty, String.ofList_toList]
    rfl
  · have hcolon : (":" ++ name).toList = ':' :: name.toList := by
      rw [String.toList_append]
      rfl
    rw [compileAttributes_singleton, classify_colon options ⟨":" ++ name, value, mustEscape⟩ hcolon,
      String.ofList_toList, hevent]
    rfl

/-! ## The default options -/

/-- By default the name of an event follows `on`. -/
theorem eventName_default (name : String) : Options.eventName {} name = "on" ++ name := by
  have hsegments : segmentsOf "on$name".toList = [.literal "on".toList, .token "name".toList] := by
    simp [segmentsOf, consLiteral, isTokenHead, isTokenTail]
  rw [Options.eventName, render_ofSource, hsegments]
  simp [Segment.filled, Options.named, Placeholders.bind, Placeholders.insert,
    Placeholders.longest?, Placeholder.value, String.ext_iff, ← String.length_toList]

/-- By default the name of a property follows a dot. -/
theorem propertyName_default (name : String) : Options.propertyName {} name = "." ++ name := by
  have hsegments : segmentsOf ".$name".toList = [.literal ".".toList, .token "name".toList] := by
    simp [segmentsOf, consLiteral, isTokenHead, isTokenTail]
  rw [Options.propertyName, render_ofSource, hsegments]
  simp [Segment.filled, Options.named, Placeholders.bind, Placeholders.insert,
    Placeholders.longest?, Placeholder.value, ← String.length_toList]

/-- By default every two-way binding listens to `oninput`. -/
theorem bindingEvent_default (name : String) : Options.bindingEvent {} name = "oninput" := by
  have hsegments : segmentsOf "oninput".toList = [.literal "oninput".toList] := by
    simp [segmentsOf, consLiteral]
  rw [Options.bindingEvent, render_ofSource, hsegments]
  simp [Segment.filled]

/-- The name holds marks of its own, which are left alone. -/
theorem compileAttributes_spellings_marks :
    compileAttributes {} [⟨"[(on(a].b)]", some (.source "x"), true⟩] =
      [⟨".on(a].b", .code "x"⟩, ⟨"oninput", .code "e => x = e.target.on(a].b"⟩] ∧
    compileAttributes {} [⟨":on(a].b", some (.source "x"), true⟩] =
      compileAttributes {} [⟨"[(on(a].b)]", some (.source "x"), true⟩] := by
  obtain ⟨-, -, hboth⟩ :=
    compileAttributes_spellings {} (some (.source "x")) true "on(a].b" (by decide)
      (surroundable_iff.mpr ⟨by decide, rfl⟩).not_blank
  obtain ⟨htwoWay, hcolon⟩ := hboth (by decide) (by decide)
  have hbracket := htwoWay "[(on(a].b)]" (by decide)
  have hshort := hcolon ((bindingEvent_default _).trans (eventName_default "input").symm)
  refine ⟨?_, hshort.trans hbracket.symm⟩
  rw [hbracket, propertyName_default, bindingEvent_default]
  rfl

end Taglit.Compiled
