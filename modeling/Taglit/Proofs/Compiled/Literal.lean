import Taglit.Proofs.Compiled.Attributes
import Taglit.Proofs.Json.Quoted
import Mathlib.Data.List.DropRight

/-!
# Quoted attribute values

The value of an attribute is kept as a static text if its source passes for a quoted text.
`Lookalike` has the sources that do: either quote opens them, and a double quote that blanks may
follow, or a single quote at the very end, closes them.  What stands in between is read as it would
be between double quotes, so that single quotes are characters like any other.

Hence more is kept than the sources of one literal.  `compileAttributes_quoted` says which
lookalikes are literals: those that are closed as they were opened and, if that is a single quote,
have no other one in between that is not escaped.  `'a' + b + 'c'` is none, and is kept as a text
all the same.
-/

namespace Taglit.Compiled

open Taglit.Output (Options)

/-! ## Literals -/

/-- Whether a quote stands in a source without a backslash that escapes it. -/
def hasUnescaped (quote : Char) : List Char → Bool
  | [] => false
  | '\\' :: _ :: cs => hasUnescaped quote cs
  | c :: cs => c == quote || hasUnescaped quote cs

/-- Whether a source is one literal, but for blanks at its end: it ends with the quote with which it
starts, and that quote does not stand in between unless it is escaped. -/
def isOneLiteral (source : List Char) : Bool :=
  match source.rdropWhile Text.isBlank with
  | [] => false
  | quote :: rest =>
    (quote == '"' || quote == '\'') && rest.getLast? == some quote &&
      !hasUnescaped quote rest.dropLast

/-- A character that is neither a backslash nor the quote is passed over. -/
theorem hasUnescaped_cons {quote c : Char} {cs : List Char} (hslash : c ≠ '\\')
    (hquote : c ≠ quote) : hasUnescaped quote (c :: cs) = hasUnescaped quote cs := by
  rw [hasUnescaped]
  · simp [hquote]
  · simp [hslash]

/-- The four digits of an escape are hexadecimal. -/
theorem hexValue?_isSome_of_fourDigits {digits : List Char} {n : Nat}
    (h : Json.FourDigits digits n) : ∀ c ∈ digits, (Text.hexValue? c).isSome = true := by
  obtain ⟨hn⟩ := h
  simp only [Text.hexNumber?, List.foldlM_cons, List.foldlM_nil, Option.bind_eq_bind,
    Option.bind_eq_some_iff, Option.map_eq_some_iff] at hn
  obtain ⟨_, ⟨_, ha, _⟩, _, ⟨_, hb, _⟩, _, ⟨_, hc, _⟩, _, ⟨_, hd, _⟩, _⟩ := hn
  simp [ha, hb, hc, hd]

/-- No double quote and no backslash is a hexadecimal digit. -/
theorem hasUnescaped_append_of_hex {digits : List Char}
    (h : ∀ c ∈ digits, (Text.hexValue? c).isSome = true) (cs : List Char) :
    hasUnescaped '"' (digits ++ cs) = hasUnescaped '"' cs := by
  induction digits with
  | nil => rfl
  | cons c digits ih =>
      obtain ⟨hc, hdigits⟩ := List.forall_mem_cons.mp h
      have hslash : c ≠ '\\' := by
        rintro rfl
        exact absurd hc (by decide)
      have hquote : c ≠ '"' := by
        rintro rfl
        exact absurd hc (by decide)
      rw [List.cons_append, hasUnescaped_cons hslash hquote, ih hdigits]

/-- An escape is passed over as a whole, in whatever form. -/
theorem hasUnescaped_append_of_escape {marks : List Char} {c : Char} (h : Json.Escape marks c)
    (cs : List Char) : hasUnescaped '"' ('\\' :: (marks ++ cs)) = hasUnescaped '"' cs := by
  cases h with
  | short _ => rfl
  | number hdigits _ => exact hasUnescaped_append_of_hex (hexValue?_isSome_of_fourDigits hdigits) cs
  | @pair high low _ _ hhigh _ _ hlow _ _ =>
      -- the second escape of a pair starts with a backslash of its own
      have hlow := hasUnescaped_append_of_hex (hexValue?_isSome_of_fourDigits hlow) cs
      have hhigh := hasUnescaped_append_of_hex (hexValue?_isSome_of_fourDigits hhigh)
        ('\\' :: 'u' :: (low ++ cs))
      rw [List.cons_append, hasUnescaped, List.append_assoc]
      exact hhigh.trans hlow

/-- Between double quotes, no other one stands without being escaped. -/
theorem hasUnescaped_eq_false_of_spells {body text : List Char} (h : Json.Spells body text) :
    hasUnescaped '"' body = false := by
  induction h with
  | nil => rfl
  | char hquote hslash _ _ ih => rw [hasUnescaped_cons hslash hquote, ih]
  | escape hmarks _ ih => rw [hasUnescaped_append_of_escape hmarks, ih]

/-! ## Sources that pass for a quoted text -/

/-- The blanks of JSON are blank. -/
theorem isBlank_of_json {c : Char} (h : Json.isBlank c = true) : Text.isBlank c = true := by
  simp only [Json.isBlank, Bool.or_eq_true, beq_iff_eq] at h
  rcases h with ((rfl | rfl) | rfl) | rfl <;> decide

/-- A source that passes for a quoted text: a quote, a `body` that stands for a `text` as it would
between double quotes, a quote that closes it, and blanks, which may only follow a double quote. -/
structure Lookalike where
  quote : Char
  body : List Char
  text : List Char
  close : Char
  blanks : List Char
  isQuote : quote = '"' ∨ quote = '\''
  spells : Json.Spells body text
  isBlank : ∀ c ∈ blanks, Json.isBlank c = true
  closes : close = '"' ∨ close = '\'' ∧ blanks = []

namespace Lookalike

/-- The source as a whole. -/
def source (l : Lookalike) : List Char :=
  l.quote :: (l.body ++ l.close :: l.blanks)

/-- Without the blanks at its end, a lookalike ends with the quote that closes it. -/
theorem rdropWhile_source (l : Lookalike) :
    l.source.rdropWhile Text.isBlank = l.quote :: (l.body ++ [l.close]) := by
  have hclose : ¬ Text.isBlank l.close = true := by
    rcases l.closes with h | ⟨h, -⟩ <;> rw [h] <;> decide
  -- what is dropped ends where the closing quote stands, which is not blank
  have hsource : l.source = (l.quote :: (l.body ++ [l.close])) ++ l.blanks := by
    simp [source]
  rw [hsource, List.rdropWhile, List.reverse_append, List.dropWhile_append_of_pos,
    ← List.rdropWhile]
  · rw [← List.cons_append]
    exact List.rdropWhile_concat_neg _ _ _ hclose
  · intro c hc
    exact isBlank_of_json (l.isBlank c (List.mem_reverse.mp hc))

/-- Which lookalikes are literals. -/
theorem isOneLiteral_source (l : Lookalike) : isOneLiteral l.source = true ↔
    l.close = l.quote ∧ (l.quote = '\'' → hasUnescaped '\'' l.body = false) := by
  have hdouble := hasUnescaped_eq_false_of_spells l.spells
  rw [isOneLiteral, l.rdropWhile_source]
  rcases l.isQuote with hquote | hquote <;> simp [hquote, hdouble]

end Lookalike

/-- A single quote at the end, taken for a double one. -/
def doubleAtEnd (inner : List Char) : List Char :=
  if inner.getLast? == some '\'' then inner.dropLast ++ ['"'] else inner

/-- A single quote at the end becomes a double one, -/
theorem doubleAtEnd_concat (inner : List Char) :
    doubleAtEnd (inner ++ ['\'']) = inner ++ ['"'] := by
  simp [doubleAtEnd]

/-- and nothing else changes. -/
theorem doubleAtEnd_of_ne {inner : List Char} (h : inner.getLast? ≠ some '\'') :
    doubleAtEnd inner = inner := by
  simp [doubleAtEnd, h]

/-- The last one of a double quote and blanks is one of them. -/
theorem getLast?_append_double {body blanks : List Char} {c : Char}
    (hblanks : ∀ c ∈ blanks, Json.isBlank c = true)
    (h : (body ++ '"' :: blanks).getLast? = some c) :
    c = '"' ∧ blanks = [] ∨ Json.isBlank c = true := by
  rw [List.getLast?_append_of_ne_nil _ (List.cons_ne_nil _ _)] at h
  cases blanks with
  | nil =>
      cases h
      exact .inl ⟨rfl, rfl⟩
  | cons b blanks =>
      rw [List.getLast?_cons_cons] at h
      exact .inr (hblanks c (List.mem_of_getLast? h))

/-- What ends in a double quote and blanks did so before, or ended in a single quote. -/
theorem doubleAtEnd_eq_iff {inner body blanks : List Char}
    (hblanks : ∀ c ∈ blanks, Json.isBlank c = true) :
    doubleAtEnd inner = body ++ '"' :: blanks ↔
      inner = body ++ '"' :: blanks ∨ inner = body ++ ['\''] ∧ blanks = [] := by
  constructor
  · intro h
    by_cases hlast : inner.getLast? = some '\''
    · obtain ⟨pre, rfl⟩ := List.getLast?_eq_some_iff.mp hlast
      rw [doubleAtEnd_concat] at h
      -- a double quote is not blank, so that nothing follows the one that closes
      have hend := getLast?_append_double hblanks (h ▸ List.getLast?_concat)
      obtain ⟨-, rfl⟩ := hend.resolve_right (by decide)
      exact .inr ⟨by rw [(List.append_inj' h rfl).1], rfl⟩
    · rw [doubleAtEnd_of_ne hlast] at h
      exact .inl h
  · rintro (rfl | ⟨rfl, rfl⟩)
    · refine doubleAtEnd_of_ne fun hlast => ?_
      rcases getLast?_append_double hblanks hlast with ⟨h, -⟩ | h
      · exact absurd h (by decide)
      · exact absurd h (by decide)
    · exact doubleAtEnd_concat body

/-- A source passes for a quoted text iff what follows its quote is read as one, up to blanks. -/
theorem literalOf?_cons_eq_some_iff {quote : Char} {inner : List Char} {text : String}
    (hquote : quote = '"' ∨ quote = '\'') :
    literalOf? (quote :: inner) = some text ↔
      ∃ rest, (Json.readQuoted (doubleAtEnd inner)).Gives text rest ∧
        ∀ c ∈ rest, Json.isBlank c = true := by
  have hnot : ¬ (quote ≠ '"' ∧ quote ≠ '\'') := by
    rintro ⟨hdouble, hsingle⟩
    exact hquote.elim hdouble hsingle
  rw [literalOf?, if_neg hnot]
  dsimp only
  rw [← doubleAtEnd]
  cases hread : Json.readQuoted (doubleAtEnd inner) with
  | error fault => simp [Json.Read.Gives]
  | ok read =>
      obtain ⟨found, rest, hrest⟩ := read
      have hblank : (Json.skipBlank rest).isEmpty = true ↔ ∀ c ∈ rest, Json.isBlank c = true := by
        rw [Json.skipBlank, List.isEmpty_iff, List.dropWhile_eq_nil_iff]
      dsimp only
      constructor
      · intro h
        obtain ⟨hempty, hfound⟩ := Option.ite_none_right_eq_some.mp h
        cases hfound
        exact ⟨rest, ⟨hrest, rfl⟩, hblank.mp hempty⟩
      · rintro ⟨_, ⟨_, h⟩, hrest⟩
        cases h
        exact if_pos (hblank.mpr hrest)

/-- The sources that pass for a quoted text are the lookalikes. -/
theorem literalOf?_eq_some_iff {source : List Char} {text : String} :
    literalOf? source = some text ↔
      ∃ l : Lookalike, l.source = source ∧ text = .ofList l.text := by
  constructor
  · intro h
    match source with
    | [] => cases h
    | quote :: inner =>
        by_cases hquote : quote = '"' ∨ quote = '\''
        · obtain ⟨blanks, hread, hblanks⟩ := (literalOf?_cons_eq_some_iff hquote).mp h
          obtain ⟨body, chars, hbody, rfl, hinner⟩ := Json.readQuoted_gives_iff.mp hread
          -- closed by a double quote before the blanks, or by a single one at the very end
          rcases (doubleAtEnd_eq_iff hblanks).mp hinner with rfl | ⟨rfl, rfl⟩
          · exact ⟨⟨quote, body, chars, '"', blanks, hquote, hbody, hblanks, .inl rfl⟩, rfl, rfl⟩
          · exact ⟨⟨quote, body, chars, '\'', [], hquote, hbody, hblanks, .inr ⟨rfl, rfl⟩⟩, rfl,
              rfl⟩
        · rw [literalOf?, if_pos (not_or.mp hquote)] at h
          cases h
  · rintro ⟨l, rfl, rfl⟩
    refine (literalOf?_cons_eq_some_iff l.isQuote).mpr ⟨l.blanks, ?_, l.isBlank⟩
    refine Json.readQuoted_gives_iff.mpr ⟨l.body, l.text, l.spells, rfl, ?_⟩
    refine (doubleAtEnd_eq_iff l.isBlank).mpr ?_
    rcases l.closes with hclose | ⟨hclose, hblanks⟩
    · exact .inl (by rw [hclose])
    · exact .inr ⟨by rw [hclose, hblanks], hblanks⟩

/-! ## Attributes -/

/-- Whether a name is no shorthand. -/
def isPlain (name : String) : Bool :=
  (eventOf? name.toList).isNone && (propertyOf? name.toList).isNone && name.toList.head? != some ':'

/-- A name that is no shorthand stays, and its value decides what is contributed. -/
theorem primary_of_isPlain {options : Options} {a : Markup.Attribute} (h : isPlain a.name = true) :
    primary options a = ⟨a.name, plainContent options a⟩ := by
  simp only [isPlain, Bool.and_eq_true, Option.isNone_iff_eq_none, bne_iff_ne] at h
  obtain ⟨⟨hevent, hproperty⟩, hcolon⟩ := h
  simp only [primary, classify, hevent, hproperty]
  split
  · next hname => simp [hname] at hcolon
  · rfl

/-- The text that a quoted value contributes. -/
def staticText (options : Options) (a : Markup.Attribute) (text : String) : String :=
  if a.mustEscape && options.escapeAttributes then Text.escapeAttribute text else text

/-- What becomes of a quoted value under a name that is no shorthand.  It is kept as a static text
if its source is a lookalike, and is code as it stands otherwise.  Not every lookalike is a
literal. -/
theorem compileAttributes_quoted (options : Options) {attributes : List Markup.Attribute} {i : Nat}
    {a : Markup.Attribute} {code : String} (ha : attributes[i]? = some a)
    (hname : isPlain a.name = true) (hvalue : a.value = some (.source code)) :
    ∃ content, (compileAttributes options attributes)[i]? = some ⟨a.name, content⟩ ∧
      (content = .code code ∧ (∀ l : Lookalike, l.source ≠ code.toList) ∨
        ∃ l : Lookalike, l.source = code.toList ∧
          content = .static (staticText options a (.ofList l.text)) ∧
          (isOneLiteral code.toList = true ↔
            l.close = l.quote ∧ (l.quote = '\'' → hasUnescaped '\'' l.body = false))) := by
  refine ⟨plainContent options a, ?_, ?_⟩
  · rw [getElem?_compileAttributes ha, primary_of_isPlain hname]
  · rw [plainContent, hvalue]
    dsimp only
    cases hliteral : literalOf? code.toList with
    | none =>
        refine .inl ⟨rfl, fun l hl => ?_⟩
        rw [literalOf?_eq_some_iff.mpr ⟨l, hl, rfl⟩] at hliteral
        cases hliteral
    | some text =>
        obtain ⟨l, hl, rfl⟩ := literalOf?_eq_some_iff.mp hliteral
        exact .inr ⟨l, hl, rfl, hl ▸ l.isOneLiteral_source⟩

/-- A sum of texts that starts and ends with one is kept as a text, though it is no literal. -/
theorem compileAttributes_quoted_sum : isOneLiteral "'a' + b + 'c'".toList = false ∧
    (compileAttributes {} [⟨"title", some (.source "'a' + b + 'c'"), true⟩])[0]? =
      some ⟨"title", .static "a&#39; + b + &#39;c"⟩ := by
  have hspells : Json.Spells "a' + b + 'c".toList "a' + b + 'c".toList := by
    repeat
      refine .char (by decide) (by decide) (by decide) ?_
    exact .nil
  let sum : Lookalike :=
    ⟨'\'', _, _, '\'', [], .inr rfl, hspells, List.forall_mem_nil _, .inr ⟨rfl, rfl⟩⟩
  have hsum : literalOf? "'a' + b + 'c'".toList = some "a' + b + 'c" :=
    literalOf?_eq_some_iff.mpr ⟨sum, rfl, rfl⟩
  have hget : [(⟨"title", some (.source "'a' + b + 'c'"), true⟩ : Markup.Attribute)][0]? = some _ :=
    rfl
  obtain ⟨content, hcontent, ⟨-, hnone⟩ | ⟨l, hl, rfl, hliteral⟩⟩ :=
    compileAttributes_quoted {} hget (by decide) rfl
  · exact absurd rfl (hnone sum)
  · -- the text of a source does not depend on how it is taken apart
    have htext : some (String.ofList l.text) = some "a' + b + 'c" :=
      (literalOf?_eq_some_iff.mpr ⟨l, hl, rfl⟩).symm.trans hsum
    refine ⟨by decide, hcontent.trans ?_⟩
    rw [Option.some.inj htext]
    rfl

end Taglit.Compiled
