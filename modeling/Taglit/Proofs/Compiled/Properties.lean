import Taglit.Compiled.Render
import Taglit.Proofs.Compiled.Literal

/-!
# Attributes as the properties of an object

The use of a mixin hands its attributes to the template as the properties of an object literal.
`Props.decode` reads such properties back, by the rules of the language in which they are written: a
key is an identifier or stands between single quotes, with all the escapes that may be used there,
and a value is `true` or a quoted text.

`decode_propsText` says that attributes without code are read back as they were, whatever their
names and texts are.  So the properties tell any two lists of them apart.
-/

namespace Taglit.Compiled

open Taglit.Output (Placeholders)

namespace Props

/-! ## Reading properties -/

/-- What a part of the source stands for, and the rest of the source after it. -/
abbrev Part (α : Type) (cs : List Char) := Option (α × Json.Rest cs)

/-- The part gives a value and leaves the rest. -/
def Part.Gives {α : Type} {cs : List Char} (part : Part α cs) (a : α) (rest : List Char) : Prop :=
  ∃ h, part = some (a, ⟨rest, h⟩)

/-- One character less. -/
theorem length_lt_cons (c : Char) (cs : List Char) : cs.length < (c :: cs).length :=
  Nat.lt_succ_self _

/-- The rest after one character. -/
def tail (c : Char) (cs : List Char) : Json.Rest (c :: cs) :=
  ⟨cs, length_lt_cons c cs⟩

/-- The rest of a source, as one of the source with a character before it. -/
def after (c : Char) {cs : List Char} (rest : Json.Rest cs) : Json.Rest (c :: cs) :=
  rest.within (length_lt_cons c cs)

/-- The character that one after a backslash stands for. -/
def escaped : Char → Char
  | '0' => '\x00'
  | 'b' => '\x08'
  | 't' => '\t'
  | 'n' => '\n'
  | 'v' => '\x0b'
  | 'f' => '\x0c'
  | 'r' => '\r'
  | c => c

/-- Read an escape between single quotes, after its backslash.  The end of a line stands for nothing
there, and of the digits only a zero alone is an escape. -/
def readEscape (cs : List Char) : Part (List Char) cs :=
  match cs with
  | [] => none
  | 'u' :: '\x7b' :: marks =>
    let digits := marks.takeWhile (· != '\x7d')
    match h : marks.drop digits.length with
    | '\x7d' :: rest => do
      let n ← Text.hexNumber? digits
      if digits.isEmpty || !n.isValidChar then none
      else some ([Char.ofNat n], ⟨rest, by have := congrArg List.length h; simp at this ⊢; omega⟩)
    | _ => none
  | 'u' :: marks => do
    let (c, rest) ← (Json.readEscape ('u' :: marks)).toOption
    return ([c], rest)
  | 'x' :: a :: b :: rest => do
    let n ← Text.hexNumber? [a, b]
    return ([Char.ofNat n], after 'x' (after a (tail b rest)))
  | '\r' :: '\n' :: rest => some ([], after '\r' (tail '\n' rest))
  | c :: rest =>
    if Script.isLineEnd c then some ([], tail c rest)
    else if c == 'x' || (c.isDigit && (c != '0' || rest.head?.any Char.isDigit)) then none
    else some ([escaped c], tail c rest)

/-- Read what stands between single quotes, after the first of them. -/
def readSingle (cs : List Char) : Part (List Char) cs :=
  match cs with
  | [] => none
  | '\'' :: rest => some ([], tail '\'' rest)
  | '\\' :: escape => do
    let (marked, ⟨rest, hescape⟩) ← readEscape escape
    let (chars, last) ← readSingle rest
    return (marked ++ chars, after '\\' (last.within hescape))
  | c :: rest => do
    if c == '\n' || c == '\r' then none
    let (chars, last) ← readSingle rest
    return (c :: chars, after c last)
termination_by cs.length
decreasing_by all_goals simp only [List.length_cons]; omega

/-- Reading an identifier leaves less than there was. -/
theorem length_dropWhile_lt {cs : List Char}
    (h : Text.isIdentifierChars (cs.takeWhile Text.isIdentifierTail) = true) :
    (cs.dropWhile Text.isIdentifierTail).length < cs.length := by
  have hlength :=
    congrArg List.length (List.takeWhile_append_dropWhile (p := Text.isIdentifierTail) (l := cs))
  cases hname : cs.takeWhile Text.isIdentifierTail with
  | nil =>
      rw [hname] at h
      cases h
  | cons c name =>
      rw [hname, List.length_append, List.length_cons] at hlength
      omega

/-- Read a key. -/
def readKey (cs : List Char) : Part String cs :=
  match cs with
  | '\'' :: rest => do
    let (chars, last) ← readSingle rest
    return (.ofList chars, after '\'' last)
  | cs =>
    if h : Text.isIdentifierChars (cs.takeWhile Text.isIdentifierTail) = true then
      some (.ofList (cs.takeWhile Text.isIdentifierTail), ⟨_, length_dropWhile_lt h⟩)
    else none

/-- Read a value. -/
def readValue (cs : List Char) : Part Content cs :=
  match cs with
  | 't' :: 'r' :: 'u' :: 'e' :: rest =>
    some (.bare, after 't' (after 'r' (after 'u' (tail 'e' rest))))
  | '"' :: rest => do
    let (text, last) ← (Json.readQuoted rest).toOption
    return (.static text, after '"' last)
  | _ => none

/-- Read a property: a key, a colon and a value. -/
def readProp (cs : List Char) : Part Attribute cs := do
  match ← readKey cs with
  | (name, ⟨':' :: value, hkey⟩) =>
    let (content, last) ← readValue value
    return (⟨name, content⟩, (after ':' last).within hkey)
  | _ => none

/-- Read one property or more, with commas between them. -/
def readSome (cs : List Char) : Option (List Attribute) := do
  match ← readProp cs with
  | (a, ⟨[], _⟩) => return [a]
  | (a, ⟨',' :: more, hprop⟩) =>
    have := Nat.lt_of_succ_lt hprop
    let attributes ← readSome more
    return a :: attributes
  | _ => none
termination_by cs.length

/-- The attributes that the properties of an object literal stand for. -/
def decode (text : String) : Option (List Attribute) :=
  if text.isEmpty then some [] else readSome text.toList

/-! ## Keys -/

/-- The characters that are escaped in a key, each after the one that stands for it. -/
def keyEscapes : List (Char × Char) :=
  [('\\', '\\'), ('\'', '\''), ('n', '\n'), ('r', '\r')]

/-- A character of a key is escaped, or it is none of those that must be. -/
theorem escapeKeyChar_cases (c : Char) :
    (∃ mark, (mark, c) ∈ keyEscapes ∧ Text.escapeKeyChar c = ['\\', mark]) ∨
      (c ≠ '\\' ∧ c ≠ '\'' ∧ c ≠ '\n' ∧ c ≠ '\r') ∧ Text.escapeKeyChar c = [c] := by
  unfold Text.escapeKeyChar
  split
  · exact .inl ⟨_, by decide, rfl⟩
  · exact .inl ⟨_, by decide, rfl⟩
  · exact .inl ⟨_, by decide, rfl⟩
  · exact .inl ⟨_, by decide, rfl⟩
  · next hslash hquote hfeed hreturn => exact .inr ⟨⟨hslash, hquote, hfeed, hreturn⟩, rfl⟩

/-- An escape of a key is read back. -/
theorem readEscape_keyEscape {mark c : Char} (h : (mark, c) ∈ keyEscapes) (cs : List Char) :
    (readEscape (mark :: cs)).Gives [c] cs := by
  simp only [keyEscapes, List.mem_cons, Prod.mk.injEq, List.not_mem_nil, or_false] at h
  rcases h with ⟨rfl, rfl⟩ | ⟨rfl, rfl⟩ | ⟨rfl, rfl⟩ | ⟨rfl, rfl⟩ <;>
    exact ⟨length_lt_cons _ cs, rfl⟩

/-- A character of a key is read back from the form in which it is written. -/
theorem readSingle_escapeKeyChar (c : Char) {cs chars rest : List Char}
    (h : (readSingle cs).Gives chars rest) :
    (readSingle (Text.escapeKeyChar c ++ cs)).Gives (c :: chars) rest := by
  obtain ⟨hlt, hread⟩ := h
  rcases escapeKeyChar_cases c with ⟨mark, hmark, hform⟩ | ⟨⟨hslash, hquote, hfeed, hreturn⟩, hform⟩
  · -- the backslash comes first, and the mark after it stands for the character
    obtain ⟨_, hescape⟩ := readEscape_keyEscape hmark cs
    rw [hform, List.cons_append, List.singleton_append]
    refine ⟨by simp only [List.length_cons]; omega, ?_⟩
    rw [readSingle]
    simp only [bind, Option.bind, hescape, hread]
    rfl
  · rw [hform, List.singleton_append]
    refine ⟨by simp only [List.length_cons]; omega, ?_⟩
    rw [readSingle]
    · simp [hread, hfeed, hreturn, after, Json.Rest.within]
    · exact hquote
    · exact hslash

/-- So are all characters of a key, up to the quote that closes it. -/
theorem readSingle_flatMap_escapeKeyChar (chars rest : List Char) :
    (readSingle (chars.flatMap Text.escapeKeyChar ++ '\'' :: rest)).Gives chars rest := by
  induction chars with
  | nil =>
      rw [List.flatMap_nil, List.nil_append]
      exact ⟨length_lt_cons _ rest, by rw [readSingle, tail]⟩
  | cons c chars ih =>
      rw [List.flatMap_cons, List.append_assoc]
      exact readSingle_escapeKeyChar c ih

/-- Replace a character by a text, wherever it stands. -/
def replaceChar (c : Char) (form cs : List Char) : List Char :=
  cs.flatMap fun d => if d = c then form else [d]

/-- The characters of a key, escaped in four rounds.  Backslashes come first, so that those of later
rounds stay as they are. -/
def escapeInRounds (cs : List Char) : List Char :=
  replaceChar '\r' ['\\', 'r'] (replaceChar '\n' ['\\', 'n']
    (replaceChar '\'' ['\\', '\''] (replaceChar '\\' ['\\', '\\'] cs)))

/-- Rounds go through a text character by character. -/
theorem escapeInRounds_cons (c : Char) (cs : List Char) :
    escapeInRounds (c :: cs) = escapeInRounds [c] ++ escapeInRounds cs := by
  simp [escapeInRounds, replaceChar]

/-- For one character, the rounds come to its escape. -/
theorem escapeInRounds_singleton (c : Char) : escapeInRounds [c] = Text.escapeKeyChar c := by
  rcases escapeKeyChar_cases c with ⟨mark, hmark, hform⟩ | ⟨⟨hslash, hquote, hfeed, hreturn⟩, hform⟩
  · have hrounds : ∀ p ∈ keyEscapes, escapeInRounds [p.2] = ['\\', p.1] := by decide
    rw [hform, hrounds _ hmark]
  · rw [hform]
    simp [escapeInRounds, replaceChar, hslash, hquote, hfeed, hreturn]

/-- All rounds at once come to the same as one after the other. -/
theorem escapeInRounds_eq_flatMap (cs : List Char) :
    escapeInRounds cs = cs.flatMap Text.escapeKeyChar := by
  induction cs with
  | nil => rfl
  | cons c cs ih => rw [escapeInRounds_cons, escapeInRounds_singleton, ih, List.flatMap_cons]

/-- What can stand between single quotes: no line feed, no carriage return and no single quote
without a backslash ends it early. -/
structure StaysQuoted (body : List Char) : Prop where
  feed : '\n' ∉ body
  carriageReturn : '\r' ∉ body
  quote : hasUnescaped '\'' body = false

/-- An escaped text can stand between single quotes. -/
theorem staysQuoted_flatMap_escapeKeyChar (chars : List Char) :
    StaysQuoted (chars.flatMap Text.escapeKeyChar) := by
  induction chars with
  | nil => exact ⟨List.not_mem_nil, List.not_mem_nil, rfl⟩
  | cons c chars ih =>
      rw [List.flatMap_cons]
      rcases escapeKeyChar_cases c with
        ⟨mark, hmark, hform⟩ | ⟨⟨hslash, hquote, hfeed, hreturn⟩, hform⟩
      · have hmarks : ∀ p ∈ keyEscapes, '\n' ≠ p.1 ∧ '\r' ≠ p.1 := by decide
        obtain ⟨hfeed, hreturn⟩ := hmarks _ hmark
        rw [hform]
        refine ⟨?_, ?_, ih.quote⟩
        · simpa [hfeed] using ih.feed
        · simpa [hreturn] using ih.carriageReturn
      · rw [hform, List.singleton_append]
        refine ⟨?_, ?_, ?_⟩
        · exact List.not_mem_cons_of_ne_of_not_mem hfeed.symm ih.feed
        · exact List.not_mem_cons_of_ne_of_not_mem hreturn.symm ih.carriageReturn
        · rw [hasUnescaped_cons hslash hquote, ih.quote]

/-- A key is an identifier, or an escaped text between single quotes. -/
theorem propertyKey_cases (name : String) :
    Text.isIdentifier name = true ∧ Text.propertyKey name = name ∨
      Text.isIdentifier name = false ∧ StaysQuoted (escapeInRounds name.toList) ∧
        (Text.propertyKey name).toList = '\'' :: (escapeInRounds name.toList ++ ['\'']) := by
  rw [Text.propertyKey, escapeInRounds_eq_flatMap]
  cases Text.isIdentifier name with
  | true => exact .inl ⟨rfl, rfl⟩
  | false => exact .inr ⟨rfl, staysQuoted_flatMap_escapeKeyChar name.toList, String.toList_ofList⟩

/-- An identifier is read back up to the colon. -/
theorem readKey_identifier {name : String} (h : Text.isIdentifier name = true) (rest : List Char) :
    (readKey (name.toList ++ ':' :: rest)).Gives name (':' :: rest) := by
  -- every character of the name continues an identifier, and the colon does not
  have htail := Text.isIdentifierTail_of_mem h
  have htake : (name.toList ++ ':' :: rest).takeWhile Text.isIdentifierTail = name.toList := by
    rw [List.takeWhile_append_of_pos htail, List.takeWhile_cons_of_neg (by decide), List.append_nil]
  have hdrop : (name.toList ++ ':' :: rest).dropWhile Text.isIdentifierTail = ':' :: rest := by
    rw [List.dropWhile_append_of_pos htail, List.dropWhile_cons_of_neg (by decide)]
  have hname : Text.isIdentifierChars
      ((name.toList ++ ':' :: rest).takeWhile Text.isIdentifierTail) = true := by
    rw [htake]
    exact h
  have hlt := length_dropWhile_lt hname
  rw [hdrop] at hlt
  refine ⟨hlt, ?_⟩
  rw [readKey, dif_pos hname]
  · simp only [htake, hdrop, String.ofList_toList]
  · -- a quote is no part of an identifier
    intro after hquote
    rw [hquote, List.takeWhile_cons_of_neg (by decide)] at hname
    cases hname

/-- A name is read back from its key. -/
theorem readKey_propertyKey (name : String) (rest : List Char) :
    (readKey ((Text.propertyKey name).toList ++ ':' :: rest)).Gives name (':' :: rest) := by
  rw [Text.propertyKey]
  by_cases h : Text.isIdentifier name = true
  · rw [if_pos h]
    exact readKey_identifier h rest
  · rw [if_neg h]
    obtain ⟨hlt, hread⟩ := readSingle_flatMap_escapeKeyChar name.toList (':' :: rest)
    rw [String.toList_ofList, List.append_assoc, List.cons_append, List.singleton_append]
    refine ⟨Nat.lt_succ_of_lt hlt, ?_⟩
    rw [readKey]
    simp only [bind, Option.bind, hread, String.ofList_toList]
    rfl

/-! ## Values -/

/-- The source of a value. -/
def valueText : Content → String
  | .bare => "true"
  | .static text => Json.writeText text
  | .code source => source

/-- A property is a key, a colon and the source of a value. -/
theorem prop_eq (a : Attribute) :
    a.prop = Text.propertyKey a.name ++ ":" ++ valueText a.content := by
  rw [Attribute.prop]
  cases a.content <;> rfl

/-- Content without code is read back. -/
theorem readValue_valueText {a : Attribute} (h : a.isCode = false) (rest : List Char) :
    (readValue ((valueText a.content).toList ++ rest)).Gives a.content rest := by
  obtain ⟨name, content⟩ := a
  cases content with
  | bare =>
      have htrue : "true".toList = ['t', 'r', 'u', 'e'] := rfl
      rw [valueText, htrue]
      exact ⟨by simp only [List.length_append, List.length_cons]; omega, rfl⟩
  | static text =>
      obtain ⟨body, hbody, hwrite⟩ := Json.exists_spells_writeText text
      obtain ⟨hlt, hread⟩ : (Json.readQuoted (body ++ '"' :: rest)).Gives text rest :=
        Json.readQuoted_gives_iff.mpr ⟨body, _, hbody, String.ofList_toList.symm, rfl⟩
      rw [valueText, hwrite, List.cons_append, List.append_assoc, List.singleton_append]
      refine ⟨Nat.lt_succ_of_lt hlt, ?_⟩
      rw [readValue, hread]
      rfl
  | code source => cases h

/-! ## Properties -/

/-- A property without code is read back. -/
theorem readProp_prop {a : Attribute} (h : a.isCode = false) (rest : List Char) :
    (readProp (a.prop.toList ++ rest)).Gives a rest := by
  obtain ⟨hkeyLt, hkey⟩ := readKey_propertyKey a.name ((valueText a.content).toList ++ rest)
  obtain ⟨hvalueLt, hvalue⟩ := readValue_valueText h rest
  have hprop : a.prop.toList ++ rest =
      (Text.propertyKey a.name).toList ++ ':' :: ((valueText a.content).toList ++ rest) := by
    simp [prop_eq]
  rw [hprop]
  refine ⟨by simp only [List.length_cons] at hkeyLt; omega, ?_⟩
  rw [readProp, hkey]
  simp only [bind, Option.bind, hvalue]
  rfl

/-- One property or more are read back. -/
theorem readSome_propsText {a : Attribute} {attributes : List Attribute} (ha : a.isCode = false)
    (h : ∀ b ∈ attributes, b.isCode = false) :
    readSome (propsText (a :: attributes)).toList = some (a :: attributes) := by
  induction attributes generalizing a with
  | nil =>
      have hgives := readProp_prop ha []
      rw [List.append_nil] at hgives
      obtain ⟨hlt, hread⟩ := hgives
      rw [propsText, List.map_singleton, String.intercalate_singleton, readSome, hread]
      rfl
  | cons b attributes ih =>
      obtain ⟨hb, h⟩ := List.forall_mem_cons.mp h
      obtain ⟨hlt, hread⟩ := readProp_prop ha (',' :: (propsText (b :: attributes)).toList)
      -- the comma ends the value before it, and what follows is read by the induction hypothesis
      have hprops : (propsText (a :: b :: attributes)).toList =
          a.prop.toList ++ ',' :: (propsText (b :: attributes)).toList := by
        simp [propsText, String.intercalate_cons_cons]
      rw [hprops, readSome, hread]
      simp only [bind, Option.bind, ih hb h]
      rfl

/-- Attributes without code are read back from their properties. -/
theorem decode_propsText_eq {attributes : List Attribute} (h : ∀ a ∈ attributes, a.isCode = false) :
    decode (propsText attributes) = some attributes := by
  cases attributes with
  | nil => rfl
  | cons a attributes =>
      obtain ⟨ha, h⟩ := List.forall_mem_cons.mp h
      have hread := readSome_propsText ha h
      have hnonempty : ¬ (propsText (a :: attributes)).isEmpty = true := by
        -- nothing can be read from the empty text
        intro hempty
        rw [String.isEmpty_iff.mp hempty, String.toList_empty, readSome] at hread
        cases hread
      rw [decode, if_neg hnonempty, hread]

end Props

/-- The properties that a mixin is handed can be read back, if the attributes have no code.

* The template of mixins gets the properties as `props`.
* They are read as the attributes that they were made of, in their order.
* A key is the name if that is an identifier.  Otherwise the escaped name stands between single
  quotes, and has there no line feed, no carriage return and no quote without a backslash.
* Other attributes have other properties.  In particular, a text is not taken for an attribute
  without a value, even if it says `true`. -/
theorem decode_propsText {attributes : List Attribute} (h : ∀ a ∈ attributes, a.isCode = false) :
    (∀ format body, ∃ record : Placeholders Id,
      mixinText format (.call attributes) body = format.options.mixins.render record ∧
      record.get? "props" = some (propsText attributes)) ∧
    Props.decode (propsText attributes) = some attributes ∧
    (∀ a ∈ attributes, a.prop = Text.propertyKey a.name ++ ":" ++ Props.valueText a.content ∧
      (Text.isIdentifier a.name = true ∧ Text.propertyKey a.name = a.name ∨
        Text.isIdentifier a.name = false ∧ Props.StaysQuoted (Props.escapeInRounds a.name.toList) ∧
          (Text.propertyKey a.name).toList =
            '\'' :: (Props.escapeInRounds a.name.toList ++ ['\'']))) ∧
    (∀ others : List Attribute, (∀ b ∈ others, b.isCode = false) → others ≠ attributes →
      propsText others ≠ propsText attributes) ∧
    ∀ before name after, attributes = before ++ ⟨name, .static "true"⟩ :: after →
      propsText (before ++ ⟨name, .bare⟩ :: after) ≠ propsText attributes := by
  -- what can be read back has one source only
  have hinjective (others : List Attribute) (hothers : ∀ b ∈ others, b.isCode = false)
      (hne : others ≠ attributes) : propsText others ≠ propsText attributes := by
    intro htext
    have hread := Props.decode_propsText_eq hothers
    rw [htext, Props.decode_propsText_eq h] at hread
    exact hne (Option.some.inj hread).symm
  refine ⟨fun format body => ⟨_, rfl, rfl⟩, Props.decode_propsText_eq h,
    fun a _ => ⟨Props.prop_eq a, Props.propertyKey_cases a.name⟩, hinjective, ?_⟩
  rintro before name after rfl
  refine hinjective _ (fun b hb => ?_) (by simp)
  rw [List.mem_append, List.mem_cons] at hb
  rcases hb with hb | rfl | hb
  · exact h b (by simp [hb])
  · rfl
  · exact h b (by simp [hb])

/-- Names and texts with every mark that the properties themselves have. -/
theorem decode_propsText_marks :
    propsText [⟨"it's, \"a:b\"\n", .static "c\":true,'\\d':\""⟩, ⟨"true", .static "true"⟩,
      ⟨"true", .bare⟩] =
      "'it\\'s, \"a:b\"\\n':\"c\\\":true,'\\\\d':\\\"\",true:\"true\",true:true" ∧
    Props.decode (propsText
      [⟨"it's, \"a:b\"\n", .static "c\":true,'\\d':\""⟩, ⟨"true", .static "true"⟩,
        ⟨"true", .bare⟩]) =
      some [⟨"it's, \"a:b\"\n", .static "c\":true,'\\d':\""⟩, ⟨"true", .static "true"⟩,
        ⟨"true", .bare⟩] :=
  ⟨by decide, (decode_propsText (by decide)).2.1⟩

end Taglit.Compiled
