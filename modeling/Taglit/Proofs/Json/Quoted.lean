import Taglit.Json.Reader
import Mathlib.Tactic.IntervalCases

/-!
# Quoted texts

`Spells` is the grammar of what may stand between the double quotes of a JSON text: characters as
they are, but for control characters, double quotes and backslashes, and escapes.
`readChars_gives_iff` says that the reader of quoted texts reads exactly that, up to the first
double quote that no escape has used up, and `exists_spells_writeText` that every text is written in
such a form.
-/

namespace Taglit.Json

open Taglit.Text

/-- A reader reads a value and leaves the rest. -/
def Read.Gives {α : Type} {cs : List Char} (r : Read α cs) (a : α) (rest : List Char) : Prop :=
  ∃ h, r = .ok (a, ⟨rest, h⟩)

/-- What succeeds after a first part has a first part that succeeds. -/
theorem exists_of_bind_eq_ok {α β : Type} {x : Except Fault α} {f : α → Except Fault β} {b : β}
    (h : x >>= f = .ok b) : ∃ a, x = .ok a ∧ f a = .ok b := by
  cases x with
  | error fault => cases h
  | ok a => exact ⟨a, rfl, h⟩

/-! ## The grammar -/

/-- Four hexadecimal digits of a number. -/
inductive FourDigits : List Char → Nat → Prop where
  | mk {a b c d : Char} {n : Nat} : hexNumber? [a, b, c, d] = some n → FourDigits [a, b, c, d] n

/-- The characters that stand for another one after a backslash. -/
def shortEscapes : List (Char × Char) :=
  [('"', '"'), ('\\', '\\'), ('/', '/'), ('b', '\x08'), ('f', '\x0c'), ('n', '\n'), ('r', '\r'),
    ('t', '\t')]

/-- What may follow a backslash, and the character that it stands for. -/
inductive Escape : List Char → Char → Prop where
  | short {mark c : Char} : (mark, c) ∈ shortEscapes → Escape [mark] c
  | number {digits : List Char} {n : Nat} : FourDigits digits n → n < 0xd800 ∨ 0xdfff < n →
      Escape ('u' :: digits) (Char.ofNat n)
  | pair {high low : List Char} {first second : Nat} :
      FourDigits high first → 0xd800 ≤ first → first ≤ 0xdbff →
      FourDigits low second → 0xdc00 ≤ second → second ≤ 0xdfff →
      Escape ('u' :: (high ++ '\\' :: 'u' :: low))
        (Char.ofNat ((first - 0xd800) * 0x400 + (second - 0xdc00) + 0x10000))

/-- What may stand between double quotes, and the text that it stands for. -/
inductive Spells : List Char → List Char → Prop where
  | nil : Spells [] []
  | char {c : Char} {body text : List Char} :
      c ≠ '"' → c ≠ '\\' → 0x20 ≤ c.toNat → Spells body text → Spells (c :: body) (c :: text)
  | escape {marks body text : List Char} {c : Char} : Escape marks c → Spells body text →
      Spells ('\\' :: (marks ++ body)) (c :: text)

/-! ## Escapes -/

/-- Four digits are read. -/
theorem readHex_gives_iff {cs rest : List Char} {n : Nat} :
    (readHex cs).Gives n rest ↔ ∃ digits, FourDigits digits n ∧ cs = digits ++ rest := by
  constructor
  · rintro ⟨hlt, h⟩
    unfold readHex at h
    split at h
    · split at h
      · next hn =>
          cases h
          exact ⟨_, .mk hn, rfl⟩
      · cases h
    · cases h
  · rintro ⟨_, ⟨hn⟩, rfl⟩
    refine ⟨by simp only [List.length_cons, List.length_append]; omega, ?_⟩
    simp only [readHex, List.cons_append, List.nil_append, hn]

/-- The second half of a pair is read, and makes a character with the first. -/
theorem readSecondHalf_gives_iff {first : Nat} {cs rest : List Char} {c : Char} :
    (readSecondHalf first cs).Gives c rest ↔
      ∃ low second, FourDigits low second ∧ 0xdc00 ≤ second ∧ second ≤ 0xdfff ∧
      c = Char.ofNat ((first - 0xd800) * 0x400 + (second - 0xdc00) + 0x10000) ∧
      cs = '\\' :: 'u' :: (low ++ rest) := by
  constructor
  · rintro ⟨hlt, h⟩
    unfold readSecondHalf at h
    split at h
    · cases h
    · split at h
      · cases h
      · obtain ⟨⟨second, after, hafter⟩, hhex, h⟩ := exists_of_bind_eq_ok h
        obtain ⟨low, hlow, rfl⟩ := readHex_gives_iff.mp ⟨hafter, hhex⟩
        dsimp only at h
        split at h
        · cases h
        · next hrange =>
            simp only [Bool.or_eq_true, decide_eq_true_eq, not_or, Nat.not_lt] at hrange
            simp only [pure, Except.pure, Except.ok.injEq, Prod.mk.injEq, Subtype.mk.injEq] at h
            obtain ⟨hc, rfl⟩ := h
            exact ⟨low, second, hlow, hrange.1, hrange.2, hc.symm, rfl⟩
      · cases h
    · cases h
  · rintro ⟨low, second, hlow, hlower, hupper, hc, rfl⟩
    obtain ⟨hlt, hhex⟩ : (readHex (low ++ rest)).Gives second rest :=
      readHex_gives_iff.mpr ⟨low, hlow, rfl⟩
    have hrange : ¬ (second < 0xdc00 || 0xdfff < second) = true := by
      simp only [Bool.or_eq_true, decide_eq_true_eq, not_or, Nat.not_lt]
      exact ⟨hlower, hupper⟩
    refine ⟨by simp only [List.length_cons, List.length_append]; omega, ?_⟩
    rw [hc, readSecondHalf, hhex]
    simp only [bind, Except.bind]
    rw [if_neg hrange]
    rfl

/-- An escape of a number that is read is one of the grammar. -/
theorem escape_of_readEscape_number {digits rest : List Char} {c : Char}
    (h : (readEscape ('u' :: digits)).Gives c rest) :
    ∃ marks, Escape marks c ∧ 'u' :: digits = marks ++ rest := by
  obtain ⟨hlt, h⟩ := h
  rw [readEscape] at h
  obtain ⟨⟨n, after, hafter⟩, hhex, h⟩ := exists_of_bind_eq_ok h
  obtain ⟨high, hhigh, rfl⟩ := readHex_gives_iff.mp ⟨hafter, hhex⟩
  dsimp only at h
  split at h
  · cases h
  · next hnotLow =>
      simp only [Bool.and_eq_true, decide_eq_true_eq, not_and, Nat.not_le] at hnotLow
      split at h
      · -- the first half of a pair, so that the second one must follow
        next hfirst =>
        simp only [Bool.and_eq_true, decide_eq_true_eq] at hfirst
        obtain ⟨⟨c', after', hafter'⟩, hsecond, h⟩ := exists_of_bind_eq_ok h
        obtain ⟨low, second, hlow, hlower, hupper, hc, rfl⟩ :=
          readSecondHalf_gives_iff.mp ⟨hafter', hsecond⟩
        simp only [pure, Except.pure, Except.ok.injEq, Prod.mk.injEq, Subtype.mk.injEq] at h
        obtain ⟨rfl, rfl⟩ := h
        rw [hc]
        refine ⟨_, .pair hhigh hfirst.1 hfirst.2 hlow hlower hupper, ?_⟩
        simp only [List.cons_append, List.append_assoc]
      · next hnotFirst =>
          simp only [Bool.and_eq_true, decide_eq_true_eq, not_and, Nat.not_le] at hnotFirst
          cases h
          refine ⟨_, .number hhigh ?_, rfl⟩
          omega

/-- An escape of the grammar is read. -/
theorem readEscape_gives_of_escape {marks rest : List Char} {c : Char} (h : Escape marks c) :
    (readEscape (marks ++ rest)).Gives c rest := by
  cases h with
  | @short mark _ hmark =>
      simp only [shortEscapes, List.mem_cons, Prod.mk.injEq, List.not_mem_nil, or_false] at hmark
      rcases hmark with ⟨rfl, rfl⟩ | ⟨rfl, rfl⟩ | ⟨rfl, rfl⟩ | ⟨rfl, rfl⟩ | ⟨rfl, rfl⟩ |
        ⟨rfl, rfl⟩ | ⟨rfl, rfl⟩ | ⟨rfl, rfl⟩ <;> exact ⟨by simp, rfl⟩
  | @number digits n hdigits hrange =>
      obtain ⟨hlt, hhex⟩ : (readHex (digits ++ rest)).Gives n rest :=
        readHex_gives_iff.mpr ⟨digits, hdigits, rfl⟩
      have hnotLow : ¬ (0xdc00 ≤ n && n ≤ 0xdfff) = true := by
        simp only [Bool.and_eq_true, decide_eq_true_eq]
        omega
      have hnotFirst : ¬ (0xd800 ≤ n && n ≤ 0xdbff) = true := by
        simp only [Bool.and_eq_true, decide_eq_true_eq]
        omega
      refine ⟨by simp only [List.length_cons, List.length_append]; omega, ?_⟩
      simp only [List.cons_append, readEscape, hhex, bind, Except.bind]
      rw [if_neg hnotLow, if_neg hnotFirst]
      rfl
  | @pair high low first second hhigh hlower hupper hlow hlower' hupper' =>
      obtain ⟨hlt, hhex⟩ : (readHex (high ++ ('\\' :: 'u' :: (low ++ rest)))).Gives first _ :=
        readHex_gives_iff.mpr ⟨high, hhigh, rfl⟩
      obtain ⟨hlt', hsecond⟩ : (readSecondHalf first ('\\' :: 'u' :: (low ++ rest))).Gives _ rest :=
        readSecondHalf_gives_iff.mpr ⟨low, second, hlow, hlower', hupper', rfl, rfl⟩
      have hcs : 'u' :: (high ++ '\\' :: 'u' :: low) ++ rest =
          'u' :: (high ++ '\\' :: 'u' :: (low ++ rest)) := by simp
      have hnotLow : ¬ (0xdc00 ≤ first && first ≤ 0xdfff) = true := by
        simp only [Bool.and_eq_true, decide_eq_true_eq]
        omega
      have hfirst : (0xd800 ≤ first && first ≤ 0xdbff) = true := by
        simp only [Bool.and_eq_true, decide_eq_true_eq]
        omega
      rw [hcs]
      refine ⟨by simp only [List.length_cons, List.length_append]; omega, ?_⟩
      simp only [readEscape, hhex, bind, Except.bind]
      rw [if_neg hnotLow, if_pos hfirst, hsecond]
      simp only [pure, Except.pure]

/-- The escapes that are read are those of the grammar. -/
theorem readEscape_gives_iff {cs rest : List Char} {c : Char} :
    (readEscape cs).Gives c rest ↔ ∃ marks, Escape marks c ∧ cs = marks ++ rest := by
  constructor
  · rintro ⟨hlt, h⟩
    have hgives : (readEscape cs).Gives c rest := ⟨hlt, h⟩
    unfold readEscape at h
    split at h
    case h_1 => cases h
    case h_11 => cases h
    case h_10 digits => exact escape_of_readEscape_number hgives
    -- the other cases are the short escapes, one by one
    all_goals
      cases h
      exact ⟨_, .short (by decide), rfl⟩
  · rintro ⟨marks, hescape, rfl⟩
    exact readEscape_gives_of_escape hescape

/-! ## Quoted texts -/

/-- What is read up to the closing quote is in the grammar. -/
theorem spells_of_readChars (cs : List Char) {text rest : List Char}
    (h : (readChars cs).Gives text rest) : ∃ body, Spells body text ∧ cs = body ++ '"' :: rest := by
  obtain ⟨hlt, h⟩ := h
  unfold readChars at h
  split at h
  · cases h
  · cases h
    exact ⟨[], .nil, rfl⟩
  · obtain ⟨⟨c, after, hafter⟩, hescape, h⟩ := exists_of_bind_eq_ok h
    obtain ⟨marks, hmarks, rfl⟩ := readEscape_gives_iff.mp ⟨hafter, hescape⟩
    obtain ⟨⟨chars, after', hafter'⟩, hchars, h⟩ := exists_of_bind_eq_ok h
    obtain ⟨body, hbody, rfl⟩ := spells_of_readChars after ⟨hafter', hchars⟩
    cases h
    exact ⟨_, .escape hmarks hbody, by simp⟩
  · next c after hquote hslash =>
      split at h
      · cases h
      · next hcontrol =>
          obtain ⟨⟨chars, after', hafter'⟩, hchars, h⟩ := exists_of_bind_eq_ok h
          obtain ⟨body, hbody, rfl⟩ := spells_of_readChars after ⟨hafter', hchars⟩
          cases h
          exact ⟨_, .char hquote hslash (Nat.not_lt.mp hcontrol) hbody, by simp⟩
termination_by cs.length
decreasing_by all_goals grind

/-- What is in the grammar is read up to the closing quote. -/
theorem readChars_of_spells {body text : List Char} (h : Spells body text) (rest : List Char) :
    (readChars (body ++ '"' :: rest)).Gives text rest := by
  induction h with
  | nil =>
      rw [List.nil_append]
      exact ⟨by simp, by rw [readChars]⟩
  | @char c body text hquote hslash hcontrol _ ih =>
      obtain ⟨hlt, hchars⟩ := ih
      rw [List.cons_append]
      refine ⟨by simp only [List.length_cons, List.length_append]; omega, ?_⟩
      rw [readChars]
      · simp only [bind, Except.bind, hchars]
        rw [if_neg (Nat.not_lt.mpr hcontrol)]
        rfl
      · exact hquote
      · exact hslash
  | @escape marks body text c hmarks _ ih =>
      obtain ⟨hlt, hchars⟩ := ih
      obtain ⟨hlt', hescape⟩ : (readEscape (marks ++ (body ++ '"' :: rest))).Gives c _ :=
        readEscape_gives_of_escape hmarks
      rw [List.cons_append, List.append_assoc]
      refine ⟨by simp only [List.length_cons, List.length_append]; omega, ?_⟩
      rw [readChars]
      simp only [bind, Except.bind, hescape, hchars]
      rfl

/-- The reader of quoted texts reads what the grammar allows, up to the double quote after it. -/
theorem readChars_gives_iff {cs text rest : List Char} :
    (readChars cs).Gives text rest ↔ ∃ body, Spells body text ∧ cs = body ++ '"' :: rest := by
  constructor
  · exact spells_of_readChars cs
  · rintro ⟨body, hbody, rfl⟩
    exact readChars_of_spells hbody rest

/-- The same for the text as a whole. -/
theorem readQuoted_gives_iff {cs rest : List Char} {text : String} :
    (readQuoted cs).Gives text rest ↔
      ∃ body chars, Spells body chars ∧ text = .ofList chars ∧ cs = body ++ '"' :: rest := by
  constructor
  · rintro ⟨hlt, h⟩
    rw [readQuoted] at h
    obtain ⟨⟨chars, after, hafter⟩, hchars, h⟩ := exists_of_bind_eq_ok h
    obtain ⟨body, hbody, hcs⟩ := readChars_gives_iff.mp ⟨hafter, hchars⟩
    cases h
    exact ⟨body, chars, hbody, rfl, hcs⟩
  · rintro ⟨body, chars, hbody, rfl, hcs⟩
    obtain ⟨hlt, hchars⟩ := readChars_gives_iff.mpr ⟨body, hbody, hcs⟩
    refine ⟨hlt, ?_⟩
    rw [readQuoted, hchars]
    rfl

/-! ## What is written -/

/-- The number of a control character has four digits. -/
theorem fourDigits_of_control {n : Nat} (h : n < 0x20) : FourDigits (hexDigitsPadded 4 n) n := by
  interval_cases n <;> exact .mk rfl

/-- A control character is escaped by its number. -/
theorem escape_of_control {c : Char} (h : c.toNat < 0x20) :
    Escape ('u' :: hexDigitsPadded 4 c.toNat) c := by
  have hescape := Escape.number (fourDigits_of_control h) (.inl (by omega))
  rwa [Char.ofNat_toNat] at hescape

/-- A character is written in a form that stands for it. -/
theorem spells_escapeChar {body text : List Char} (c : Char) (h : Spells body text) :
    Spells (escapeChar c ++ body) (c :: text) := by
  unfold escapeChar
  split
  · exact .escape (.short (by decide)) h
  · exact .escape (.short (by decide)) h
  · exact .escape (.short (by decide)) h
  · exact .escape (.short (by decide)) h
  · exact .escape (.short (by decide)) h
  · exact .escape (.short (by decide)) h
  · exact .escape (.short (by decide)) h
  · next hquote hslash _ _ _ _ _ =>
      split
      · next hcontrol => exact .escape (escape_of_control hcontrol) h
      · next hplain => exact .char hquote hslash (Nat.le_of_not_lt hplain) h

/-- So are all characters of a text. -/
theorem spells_flatMap_escapeChar (text : List Char) : Spells (text.flatMap escapeChar) text := by
  induction text with
  | nil => exact .nil
  | cons c text ih => exact spells_escapeChar c ih

/-- A text is written between double quotes in a form that stands for it. -/
theorem exists_spells_writeText (s : String) :
    ∃ body, Spells body s.toList ∧ (writeText s).toList = '"' :: (body ++ ['"']) :=
  ⟨_, spells_flatMap_escapeChar s.toList, String.toList_ofList⟩

end Taglit.Json
