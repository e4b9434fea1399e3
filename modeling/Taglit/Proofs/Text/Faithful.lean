import Taglit.Proofs.Text.Chunk
import Mathlib.Data.List.Induction

/-!
# Escaped texts are read back

What a template literal makes of an escaped text: no character of it ends the chunk, and without the
escaping backslashes it is the text again.  A character is escaped iff the backslashes right before
it are odd in number, so the delimiters can be found in the characters themselves, with no regard to
how they are read; `escapes_of_isChunk` ties this to the reader of chunks.

Callers put escaped pieces side by side.  `escapeTemplateChars_append_iff` says when this is the
same as escaping the pieces together: always, but for a dollar sign at the end of the first piece
and an opening brace at the start of the second one.
-/

namespace Taglit.Text

/-! ## Escaped positions -/

/-- Whether a character after these ones is escaped: they end in an odd number of backslashes. -/
def escapesNext (cs : List Char) : Bool :=
  (cs.reverse.takeWhile (· == '\\')).length % 2 == 1

/-- A backslash escapes what follows, unless it is escaped itself. -/
theorem escapesNext_concat (cs : List Char) (c : Char) :
    escapesNext (cs ++ [c]) = (c == '\\' && !escapesNext cs) := by
  rw [escapesNext, escapesNext, List.reverse_concat, List.takeWhile_cons]
  by_cases hc : c = '\\'
  · -- one more backslash changes whether their number is odd
    rw [if_pos (by simpa using hc), List.length_cons, hc]
    rcases Nat.mod_two_eq_zero_or_one (cs.reverse.takeWhile (· == '\\')).length with h | h
    · simp [Nat.add_mod, h]
    · simp [Nat.add_mod, h]
  · simp [hc]

/-- A reader of chunks keeps a backslash in mind that is not escaped itself. -/
theorem ChunkState.eq_escaped_of_step {state next : ChunkState} {c : Char}
    (h : state.step c = some next) : next = .escaped ↔ c = '\\' ∧ state ≠ .escaped := by
  unfold step at h
  split at h <;> cases h <;> simp_all

/-- The state in which a chunk has been read says whether its next character is escaped. -/
theorem escapesNext_of_scanChunk {cs : List Char} {state : ChunkState}
    (h : scanChunk .plain cs = some state) : escapesNext cs = true ↔ state = .escaped := by
  induction cs using List.reverseRecOn generalizing state with
  | nil =>
      cases h
      decide
  | append_singleton cs c ih =>
      rw [scanChunk_append, Option.bind_eq_some_iff] at h
      obtain ⟨before, hbefore, h⟩ := h
      have hstep : before.step c = some state := by simpa [scanChunk] using h
      rw [escapesNext_concat, Bool.and_eq_true, beq_iff_eq, Bool.not_eq_true', ← Bool.not_eq_true,
        ih hbefore]
      exact (ChunkState.eq_escaped_of_step hstep).symm

/-- Characters that end a chunk unless the first of them is escaped, are escaped where they stand in
one. -/
theorem escapesNext_of_ends {before rest : List Char} (hplain : scanChunk .plain rest = none)
    (hdollar : scanChunk .dollar rest = none) {state : ChunkState}
    (h : scanChunk .plain (before ++ rest) = some state) : escapesNext before = true := by
  rw [scanChunk_append, Option.bind_eq_some_iff] at h
  obtain ⟨middle, hbefore, hrest⟩ := h
  rw [escapesNext_of_scanChunk hbefore]
  cases middle with
  | escaped => rfl
  | plain => rw [hplain] at hrest; cases hrest
  | dollar => rw [hdollar] at hrest; cases hrest

/-- In a chunk, backticks and dollar signs before opening braces are escaped, and what follows it is
not. -/
theorem escapes_of_isChunk {text : String} (h : isChunk text = true) :
    (∀ before after, text.toList = before ++ '\x60' :: after → escapesNext before = true) ∧
    (∀ before after, text.toList = before ++ '$' :: '\x7b' :: after → escapesNext before = true) ∧
    escapesNext text.toList = false := by
  obtain ⟨state, hscan, hstate⟩ := exists_scanChunk_of_isChunk h
  refine ⟨fun before after htext => ?_, fun before after htext => ?_, ?_⟩
  · rw [htext] at hscan
    exact escapesNext_of_ends rfl rfl hscan
  · rw [htext] at hscan
    exact escapesNext_of_ends rfl rfl hscan
  · rw [← Bool.not_eq_true, escapesNext_of_scanChunk hscan]
    exact hstate

/-! ## Texts without their escaping backslashes -/

/-- Remove each escaping backslash.  The character after it stands for itself. -/
def unescapeTemplateChars : List Char → List Char
  | '\\' :: c :: cs => c :: unescapeTemplateChars cs
  | c :: cs => c :: unescapeTemplateChars cs
  | [] => []

/-- The text that an escaped text stands for. -/
def unescapeTemplate (text : String) : String :=
  .ofList (unescapeTemplateChars text.toList)

/-- What is no backslash stands for itself. -/
theorem unescapeTemplateChars_cons {c : Char} (hc : c ≠ '\\') (cs : List Char) :
    unescapeTemplateChars (c :: cs) = c :: unescapeTemplateChars cs := by
  rw [unescapeTemplateChars]
  exact fun _ _ h => absurd h hc

/-- Without its escaping backslashes, an escaped text is the text again. -/
theorem unescapeTemplateChars_escape (cs : List Char) :
    unescapeTemplateChars (escapeTemplateChars cs) = cs := by
  fun_induction escapeTemplateChars cs with
  | case1 => rfl
  | case2 cs ih => rw [unescapeTemplateChars, ih]
  | case3 cs ih => rw [unescapeTemplateChars, ih]
  | case4 cs ih => rw [unescapeTemplateChars, unescapeTemplateChars_cons (by decide), ih]
  | case5 c cs hslash _ _ ih => rw [unescapeTemplateChars_cons hslash, ih]

/-- The same of texts. -/
theorem unescapeTemplate_escapeTemplate (text : String) :
    unescapeTemplate (escapeTemplate text) = text := by
  rw [unescapeTemplate, escapeTemplate, String.toList_ofList, unescapeTemplateChars_escape,
    String.ofList_toList]

/-! ## Escaped pieces side by side -/

/-- Whether a substitution is opened where two pieces meet. -/
def OpensBetween (xs ys : List Char) : Prop :=
  xs.getLast? = some '$' ∧ ys.head? = some '\x7b'

/-- A character further up front does not matter. -/
theorem OpensBetween.cons {xs ys : List Char} (h : OpensBetween xs ys) (c : Char) :
    OpensBetween (c :: xs) ys :=
  ⟨by rw [List.getLast?_cons, h.1]; rfl, h.2⟩

/-- A character that needs no escape is left as it is. -/
theorem escapeTemplateChars_cons {c : Char} {cs : List Char} (hslash : c ≠ '\\')
    (htick : c ≠ '\x60') (hopen : c = '$' → cs.head? ≠ some '\x7b') :
    escapeTemplateChars (c :: cs) = c :: escapeTemplateChars cs := by
  rw [escapeTemplateChars]
  · exact hslash
  · exact htick
  · rintro rest rfl rfl
    exact hopen rfl rfl

/-- Pieces are escaped one by one, unless a substitution is opened where they meet. -/
theorem escapeTemplateChars_append {xs ys : List Char} (h : ¬ OpensBetween xs ys) :
    escapeTemplateChars (xs ++ ys) = escapeTemplateChars xs ++ escapeTemplateChars ys := by
  fun_induction escapeTemplateChars xs with
  | case1 => rfl
  | case2 cs ih =>
      rw [List.cons_append, escapeTemplateChars, ih (mt (OpensBetween.cons · _) h)]
      rfl
  | case3 cs ih =>
      rw [List.cons_append, escapeTemplateChars, ih (mt (OpensBetween.cons · _) h)]
      rfl
  | case4 cs ih =>
      rw [List.cons_append, List.cons_append, escapeTemplateChars,
        ih (mt (fun hopens => (hopens.cons _).cons _) h)]
      rfl
  | case5 c cs hslash htick hopen ih =>
      -- the character after a dollar sign is that of the piece, or the first one of the next piece
      have hhead : c = '$' → (cs ++ ys).head? ≠ some '\x7b' := by
        rintro rfl hbrace
        cases cs with
        | nil => exact h ⟨rfl, hbrace⟩
        | cons d cs => exact hopen cs rfl (by rw [Option.some.inj hbrace])
      rw [List.cons_append, escapeTemplateChars_cons hslash htick hhead,
        ih (mt (OpensBetween.cons · _) h)]
      rfl

/-- Escaping commutes with putting pieces side by side iff no substitution is opened where they
meet. -/
theorem escapeTemplateChars_append_iff (xs ys : List Char) :
    escapeTemplateChars (xs ++ ys) = escapeTemplateChars xs ++ escapeTemplateChars ys ↔
      ¬ OpensBetween xs ys := by
  refine ⟨fun h hopens => ?_, escapeTemplateChars_append⟩
  obtain ⟨xs, rfl⟩ := List.getLast?_eq_some_iff.mp hopens.1
  obtain ⟨ys, rfl⟩ := List.head?_eq_some_iff.mp hopens.2
  -- together the dollar sign gets a backslash, and alone it does not
  have htogether : escapeTemplateChars (xs ++ '$' :: '\x7b' :: ys) =
      escapeTemplateChars xs ++ '\\' :: '$' :: '\x7b' :: escapeTemplateChars ys := by
    rw [escapeTemplateChars_append (by simp [OpensBetween]), escapeTemplateChars]
  have hfirst : escapeTemplateChars (xs ++ ['$']) = escapeTemplateChars xs ++ ['$'] :=
    escapeTemplateChars_append (by simp [OpensBetween])
  have hsecond : escapeTemplateChars ('\x7b' :: ys) = '\x7b' :: escapeTemplateChars ys :=
    escapeTemplateChars_cons (by decide) (by decide) (fun hc => absurd hc (by decide))
  rw [List.append_assoc, List.singleton_append, htogether, hfirst, hsecond, List.append_assoc,
    List.append_right_inj] at h
  exact absurd (List.cons.inj h).1 (by decide)

/-! ## Faithfulness -/

/-- Escaping a text for a template literal is faithful.

* In an escaped text every backtick and every dollar sign before an opening brace is escaped, and no
  backslash at the end escapes what follows.
* Without the escaping backslashes it is the text again, so no two texts have the same escaped form.
* Two pieces may be escaped one by one iff it is not the case that the first ends in a dollar sign
  and the second starts with an opening brace. -/
theorem escapeTemplate_faithful :
    (∀ text : String,
      (∀ before after, (escapeTemplate text).toList = before ++ '\x60' :: after →
        escapesNext before = true) ∧
      (∀ before after, (escapeTemplate text).toList = before ++ '$' :: '\x7b' :: after →
        escapesNext before = true) ∧
      escapesNext (escapeTemplate text).toList = false ∧
      unescapeTemplate (escapeTemplate text) = text) ∧
    Function.Injective escapeTemplate ∧
    ∀ first second : String,
      escapeTemplate (first ++ second) = escapeTemplate first ++ escapeTemplate second ↔
        ¬ (first.toList.getLast? = some '$' ∧ second.toList.head? = some '\x7b') := by
  refine ⟨fun text => ?_, ?_, fun first second => ?_⟩
  · obtain ⟨hticks, hdollars, hend⟩ := escapes_of_isChunk (isChunk_escapeTemplate text)
    exact ⟨hticks, hdollars, hend, unescapeTemplate_escapeTemplate text⟩
  · exact Function.LeftInverse.injective unescapeTemplate_escapeTemplate
  · rw [← String.toList_inj, String.toList_append, escapeTemplate, escapeTemplate, escapeTemplate,
      String.toList_ofList, String.toList_ofList, String.toList_ofList, String.toList_append]
    exact escapeTemplateChars_append_iff first.toList second.toList

/-- A backtick after a backslash, and a dollar sign that is split from its brace. -/
theorem escapeTemplate_faithful_seam :
    (escapeTemplate "\\\x60").toList = ['\\', '\\', '\\'] ++ '\x60' :: [] ∧
      escapesNext ['\\', '\\', '\\'] = true ∧
      escapeTemplate ("\\$" ++ "\x7b") ≠ escapeTemplate "\\$" ++ escapeTemplate "\x7b" := by
  have htick : (escapeTemplate "\\\x60").toList = ['\\', '\\', '\\'] ++ '\x60' :: [] := by decide
  refine ⟨htick, (escapeTemplate_faithful.1 "\\\x60").1 _ _ htick, fun h => ?_⟩
  exact (escapeTemplate_faithful.2.2 "\\$" "\x7b").mp h ⟨by decide, by decide⟩

end Taglit.Text
