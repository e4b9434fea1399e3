import Taglit.Text.Escape

/-!
# Chunks of template literals

The text between the delimiters of a template literal is read from left to right: a backslash
escapes the character after it, and an unescaped backtick or an unescaped dollar sign before an
opening brace ends the chunk.  `isChunk` says that a text can be read to its end this way.

An escaped text is a chunk.  Chunks that stand side by side make a chunk again, unless the first
ends in an unescaped dollar sign and the second starts with a brace; `scanChunk` therefore keeps in
mind whether a dollar sign was read last.
-/

namespace Taglit.Text

/-- What a chunk has been read up to: nothing to keep in mind, or an unescaped backslash or dollar
sign that was read last. -/
inductive ChunkState where
  | plain
  | escaped
  | dollar
  deriving DecidableEq, Repr

/-- Read one character, unless it ends the chunk. -/
def ChunkState.step : ChunkState → Char → Option ChunkState
  | .escaped, _ => some .plain
  | _, '\\' => some .escaped
  | _, '\x60' => none
  | .dollar, '\x7b' => none
  | _, '$' => some .dollar
  | _, _ => some .plain

/-- Read characters, none of which ends the chunk. -/
def scanChunk (state : ChunkState) : List Char → Option ChunkState
  | [] => some state
  | c :: cs => (state.step c).bind fun next => scanChunk next cs

/-- Whether a text is a chunk of a template literal. -/
def isChunk (text : String) : Bool :=
  match scanChunk .plain text.toList with
  | some .plain | some .dollar => true
  | some .escaped | none => false

/-- Nothing is read of no characters. -/
@[simp] theorem scanChunk_nil (state : ChunkState) : scanChunk state [] = some state := rfl

/-- Characters after characters are read one after the other. -/
theorem scanChunk_append (state : ChunkState) (xs ys : List Char) :
    scanChunk state (xs ++ ys) = (scanChunk state xs).bind fun next => scanChunk next ys := by
  induction xs generalizing state with
  | nil => rfl
  | cons x xs ih =>
      rw [List.cons_append, scanChunk, scanChunk, Option.bind_assoc]
      exact congrArg _ (funext ih)

/-- A text that is read to its end, with no backslash last, is a chunk. -/
theorem isChunk_of_scanChunk {text : String} {state : ChunkState}
    (h : scanChunk .plain text.toList = some state) (hstate : state ≠ .escaped) :
    isChunk text = true := by
  cases state <;> simp_all [isChunk]

/-- A chunk is read to its end, with no backslash last. -/
theorem exists_scanChunk_of_isChunk {text : String} (h : isChunk text = true) :
    ∃ state, scanChunk .plain text.toList = some state ∧ state ≠ .escaped := by
  unfold isChunk at h
  split at h <;> simp_all

/-- The characters that mean something in a chunk wherever they stand. -/
def isActive (c : Char) : Bool :=
  c == '\\' || c == '\x60' || c == '$'

/-- A character that is not active ends a chunk only if it is a brace after a dollar sign. -/
theorem ChunkState.step_of_not_isActive {c : Char} (hc : isActive c = false) :
    step .plain c = some .plain ∧ step .dollar c = if c = '\x7b' then none else some .plain := by
  simp only [isActive, Bool.or_eq_false_iff, beq_eq_false_iff_ne] at hc
  obtain ⟨⟨hslash, htick⟩, hdollar⟩ := hc
  constructor
  · unfold step
    split <;> simp_all
  · unfold step
    split <;> simp_all

/-! ## Escaped texts -/

/-- Escaping adds backslashes only. -/
theorem eq_or_mem_of_mem_escapeTemplateChars {c : Char} {cs : List Char}
    (h : c ∈ escapeTemplateChars cs) : c = '\\' ∨ c ∈ cs := by
  fun_induction escapeTemplateChars cs with
  | case1 => exact absurd h List.not_mem_nil
  | case2 cs ih => grind
  | case3 cs ih => grind
  | case4 cs ih => grind
  | case5 c cs _ _ _ ih => grind

/-- The state after a text that has been escaped. -/
def stateAfter (cs : List Char) : ChunkState :=
  if cs.getLast? = some '$' then .dollar else .plain

/-- Only the last character matters to the state. -/
theorem stateAfter_cons {c : Char} (hc : c ≠ '$') (cs : List Char) :
    stateAfter (c :: cs) = stateAfter cs := by
  cases cs with
  | nil => simp [stateAfter, hc]
  | cons d cs => simp [stateAfter]

/-- A dollar sign matters only if it is the last one. -/
theorem stateAfter_dollar_cons {cs : List Char} (h : cs ≠ []) :
    stateAfter ('$' :: cs) = stateAfter cs := by
  obtain ⟨d, cs, rfl⟩ := List.exists_cons_of_ne_nil h
  simp [stateAfter]

/-- An escaped text is read to its end; after a dollar sign, unless it starts with an opening
brace. -/
theorem scanChunk_escape (cs : List Char) :
    scanChunk .plain (escapeTemplateChars cs) = some (stateAfter cs) ∧
      scanChunk .dollar (escapeTemplateChars cs) =
        if cs = [] then some .dollar else if cs.head? = some '\x7b' then none
        else some (stateAfter cs) := by
  fun_induction escapeTemplateChars cs with
  | case1 => exact ⟨rfl, rfl⟩
  | case2 cs ih =>
      rw [stateAfter_cons (by decide), if_neg (by simp), if_neg (by simp)]
      exact ⟨ih.1, ih.1⟩
  | case3 cs ih =>
      rw [stateAfter_cons (by decide), if_neg (by simp), if_neg (by simp)]
      exact ⟨ih.1, ih.1⟩
  | case4 cs ih =>
      rw [stateAfter_dollar_cons (by simp), stateAfter_cons (by decide), if_neg (by simp),
        if_neg (by simp)]
      exact ⟨ih.1, ih.1⟩
  | case5 c cs hslash htick hopen ih =>
      rw [if_neg (by simp)]
      by_cases hc : c = '$'
      · -- the dollar sign is kept in mind, and what follows does not start with a brace
        subst hc
        have hhead : cs.head? ≠ some '\x7b' := by
          intro h
          obtain ⟨rest, rfl⟩ := List.head?_eq_some_iff.mp h
          exact hopen rest rfl rfl
        have hdollar :
            scanChunk .dollar (escapeTemplateChars cs) = some (stateAfter ('$' :: cs)) := by
          rw [ih.2, if_neg hhead]
          by_cases hnil : cs = []
          · simp [hnil, stateAfter]
          · rw [if_neg hnil, stateAfter_dollar_cons hnil]
        rw [if_neg (by simp)]
        exact ⟨hdollar, hdollar⟩
      · have hactive : isActive c = false := by simp_all [isActive]
        obtain ⟨hplain, hdollar⟩ := ChunkState.step_of_not_isActive hactive
        rw [stateAfter_cons hc, scanChunk, scanChunk, hplain, hdollar]
        refine ⟨ih.1, ?_⟩
        by_cases hbrace : c = '\x7b'
        · simp [hbrace]
        · simp [hbrace, ih.1]

/-- An escaped text does not end in an escaping backslash. -/
theorem stateAfter_ne_escaped (cs : List Char) : stateAfter cs ≠ .escaped := by
  unfold stateAfter
  split <;> simp

/-- It ends in a dollar sign iff the text does. -/
theorem stateAfter_beq_dollar (cs : List Char) :
    (stateAfter cs == .dollar) = (cs.getLast? == some '$') := by
  by_cases h : cs.getLast? = some '$'
  · rw [stateAfter, if_pos h, h]
    rfl
  · rw [stateAfter, if_neg h, beq_eq_false_iff_ne.mpr h]
    rfl

/-- An escaped text is a chunk. -/
theorem isChunk_escapeTemplate (text : String) : isChunk (escapeTemplate text) = true := by
  refine isChunk_of_scanChunk ?_ (stateAfter_ne_escaped text.toList)
  rw [escapeTemplate, String.toList_ofList, (scanChunk_escape _).1]

/-- What reading an escaped text does in any state. -/
theorem scanChunk_escapeTemplate (text : String) {state : ChunkState} (hstate : state ≠ .escaped) :
    scanChunk state (escapeTemplate text).toList =
      if text = "" then some state
      else if state == .dollar && text.toList.head? == some '\x7b' then none
      else some (stateAfter text.toList) := by
  obtain ⟨hplain, hdollar⟩ := scanChunk_escape text.toList
  rw [escapeTemplate, String.toList_ofList]
  cases state with
  | escaped => exact absurd rfl hstate
  | plain =>
      rw [hplain]
      by_cases h : text = "" <;> simp [h, stateAfter]
  | dollar =>
      rw [hdollar]
      simp only [String.toList_eq_nil_iff, BEq.rfl, Bool.true_and, beq_iff_eq]

/-! ## Inert markup -/

/-- Whether markup can stand anywhere in a chunk: it is not empty, has no active characters, and
does not start with an opening brace. -/
def isInert (text : String) : Bool :=
  text.toList.all (!isActive ·) && text.toList.head?.any (· ≠ '\x7b')

/-- Whether a name has no active characters. -/
def isPassive (name : String) : Bool :=
  name.toList.all (!isActive ·)

/-- Markup that starts inert stays so whatever plain text follows. -/
theorem isInert_append {text name : String} (htext : isInert text = true)
    (hname : isPassive name = true) : isInert (text ++ name) = true := by
  simp only [isInert, isPassive, Bool.and_eq_true, String.toList_append, List.all_append] at *
  refine ⟨⟨htext.1, hname⟩, ?_⟩
  cases hcs : text.toList with
  | nil => simp [hcs] at htext
  | cons c cs => simpa [hcs] using htext.2

/-- Characters that are not active leave nothing to keep in mind. -/
theorem scanChunk_plain_of_not_isActive {cs : List Char} (h : ∀ c ∈ cs, isActive c = false) :
    scanChunk .plain cs = some .plain := by
  induction cs with
  | nil => rfl
  | cons c cs ih =>
      rw [scanChunk, (ChunkState.step_of_not_isActive (h c (by simp))).1]
      exact ih fun d hd => h d (by simp [hd])

/-- After inert markup there is nothing to keep in mind. -/
theorem scanChunk_of_isInert {text : String} (h : isInert text = true) {state : ChunkState}
    (hstate : state ≠ .escaped) : scanChunk state text.toList = some .plain := by
  simp only [isInert, Bool.and_eq_true, List.all_eq_true, Bool.not_eq_true'] at h
  obtain ⟨hactive, hhead⟩ := h
  cases hcs : text.toList with
  | nil => simp [hcs] at hhead
  | cons c cs =>
      rw [hcs] at hactive
      have hbrace : c ≠ '\x7b' := by simpa [hcs] using hhead
      obtain ⟨hplain, hdollar⟩ := ChunkState.step_of_not_isActive (hactive c (by simp))
      have hrest : scanChunk .plain cs = some .plain :=
        scanChunk_plain_of_not_isActive fun d hd => hactive d (by simp [hd])
      cases state with
      | escaped => exact absurd rfl hstate
      | plain => rw [scanChunk, hplain]; exact hrest
      | dollar => rw [scanChunk, hdollar, if_neg hbrace]; exact hrest

end Taglit.Text
