import Taglit.Proofs.Lexical.Basic

/-!
# Self-contained sources

Whatever the stack below and however many braces are open, a self-contained source leaves them as
they were (`lex_eq_some_iff`).  So sources can be put together: `Shifts m n source` says that a
source, read in code with `m` braces to close, leaves `n` to close, and such sources follow each
other like the moves of a counter.  Strings and template literals are self-contained if what stands
between their delimiters is escaped.
-/

namespace Taglit.Lexical

open Taglit.Text (ChunkState scanChunk isChunk)

/-- Reading in code with `m` braces to close leaves `n` to close and finds the given literals; the
rest of the stack stays as it was. -/
def Reads (m n : Nat) (cs : List Char) (found : List Literal) : Prop :=
  ∀ depth text literals below, run (.code (depth + m) text literals :: below) cs =
    some (.code (depth + n) (text ++ cs) (literals ++ found) :: below)

/-- A source is self-contained iff it can be read in any code, which is then as it was. -/
theorem lex_eq_some_iff {source : String} {found : List Literal} :
    lex source = some found ↔ Reads 0 0 source.toList found := by
  constructor
  · intro h depth text literals below
    -- the code that was read alone continues the code at hand
    unfold lex at h
    split at h
    · next t ls hrun =>
        obtain rfl := Option.some.inj h
        have ht : t = source.toList := by simpa [spelled, Frame.text] using spelled_run hrun
        simpa [graft, ht] using run_graft depth text literals below hrun
    · cases h
  · intro h
    have hrun := h 0 [] [] []
    simp only [Nat.add_zero, List.nil_append] at hrun
    simp [lex, hrun]

namespace Reads

variable {m n k : Nat} {xs ys : List Char} {found more : List Literal}

/-- Reading sources one after the other. -/
theorem append (hx : Reads m n xs found) (hy : Reads n k ys more) :
    Reads m k (xs ++ ys) (found ++ more) := by
  intro depth text literals below
  rw [run_append, hx, Option.bind_some, hy, List.append_assoc, List.append_assoc]

/-- Reading one character of code, and then the rest. -/
theorem cons {c : Char}
    (hc : ∀ depth text literals below, step (.code (depth + m) text literals :: below) c =
      some (.code (depth + n) (text ++ [c]) literals :: below))
    (hx : Reads n k xs found) : Reads m k (c :: xs) found := by
  intro depth text literals below
  rw [run, hc, Option.bind_some, hx, List.append_assoc, List.singleton_append]

/-- What needs no brace to close can be read with any number to close. -/
theorem lift (hx : Reads 0 0 xs found) : Reads m m xs found :=
  fun depth => hx (depth + m)

end Reads

/-- A source that leaves `n` braces to close if there were `m`. -/
def Shifts (m n : Nat) (source : String) : Prop :=
  ∃ found, Reads m n source.toList found

/-- A self-contained source leaves no brace to close, and needs none. -/
theorem selfContained_iff_shifts {source : String} : SelfContained source ↔ Shifts 0 0 source := by
  simp only [SelfContained, Option.isSome_iff_exists, lex_eq_some_iff, Shifts]

/-- A self-contained source leaves as many braces to close as there were. -/
theorem SelfContained.shifts {source : String} (h : SelfContained source) (m : Nat) :
    Shifts m m source := by
  obtain ⟨found, hreads⟩ := selfContained_iff_shifts.mp h
  exact ⟨found, hreads.lift⟩

/-- Sources after sources. -/
theorem Shifts.append {m n k : Nat} {s t : String} (hs : Shifts m n s) (ht : Shifts n k t) :
    Shifts m k (s ++ t) := by
  obtain ⟨found, hs⟩ := hs
  obtain ⟨more, ht⟩ := ht
  rw [Shifts, String.toList_append]
  exact ⟨found ++ more, hs.append ht⟩

/-- A source that needs no brace to close, and leaves none, is self-contained. -/
theorem Shifts.selfContained {s : String} (h : Shifts 0 0 s) : SelfContained s :=
  selfContained_iff_shifts.mpr h

/-! ## Code without strings -/

/-- The number of braces to close after code that has neither strings nor template literals. -/
def balance (depth : Nat) : List Char → Option Nat
  | [] => some depth
  | c :: cs =>
    if c = '\'' ∨ c = '"' ∨ c = '\x60' then none
    else if c = '\x7b' then balance (depth + 1) cs
    else if c = '\x7d' then if depth = 0 then none else balance (depth - 1) cs
    else balance depth cs

/-- Code without strings is read with its braces counted. -/
theorem reads_of_balance {m n : Nat} {cs : List Char} (h : balance m cs = some n) :
    Reads m n cs [] := by
  induction cs generalizing m with
  | nil =>
      obtain rfl := Option.some.inj h
      intro depth text literals below
      simp [run]
  | cons c cs ih =>
      rw [balance] at h
      split_ifs at h with hquote hopen hclose hzero
      · refine Reads.cons (fun depth text literals below => ?_) (ih h)
        simp_all [step, Nat.add_assoc]
      · -- the brace that is closed is one of the `m`, not one of the code below
        obtain ⟨m, rfl⟩ := Nat.exists_eq_add_one_of_ne_zero hzero
        refine Reads.cons (fun depth text literals below => ?_) (ih h)
        simp_all [step, closeBrace]
      · refine Reads.cons (fun depth text literals below => ?_) (ih h)
        simp_all [step]

/-- The same of a source. -/
theorem shifts_of_balance {m n : Nat} {s : String} (h : balance m s.toList = some n) :
    Shifts m n s :=
  ⟨[], reads_of_balance h⟩

/-- Sources in a row with a separator between them. -/
theorem Shifts.intercalate {m : Nat} {separator : String} {sources : List String}
    (hseparator : Shifts m m separator) (hsources : ∀ s ∈ sources, Shifts m m s) :
    Shifts m m (separator.intercalate sources) := by
  induction sources with
  | nil =>
      rw [String.intercalate_nil]
      exact ⟨[], fun depth text literals below => by simp [run]⟩
  | cons s sources ih =>
      have hs := hsources s (by simp)
      have hrest := ih fun t ht => hsources t (by simp [ht])
      by_cases hnil : sources = []
      · rw [hnil, String.intercalate_singleton]
        exact hs
      · rw [String.intercalate_cons_of_ne_nil hnil]
        exact (hs.append hseparator).append hrest

/-! ## Strings -/

/-- Reading characters in a string that do not end it. -/
def ReadsQuoted (quote : Char) (cs : List Char) : Prop :=
  ∀ text below,
    run (.quoted quote false text :: below) cs = some (.quoted quote false (text ++ cs) :: below)

/-- A character that is neither a backslash nor the quote does not end a string. -/
theorem readsQuoted_plain {quote c : Char} (hslash : c ≠ '\\') (hquote : c ≠ quote) :
    ReadsQuoted quote [c] := by
  intro text below
  simp [run, step, hslash, hquote]

/-- Nor does any character after a backslash. -/
theorem readsQuoted_escape (quote c : Char) : ReadsQuoted quote ['\\', c] := by
  intro text below
  simp [run, step]

/-- Characters after characters in a string. -/
theorem ReadsQuoted.append {quote : Char} {xs ys : List Char} (hx : ReadsQuoted quote xs)
    (hy : ReadsQuoted quote ys) : ReadsQuoted quote (xs ++ ys) := by
  intro text below
  rw [run_append, hx, Option.bind_some, hy, List.append_assoc]

/-- A text of which every character is escaped does not end a string. -/
theorem readsQuoted_flatMap {quote : Char} {escape : Char → List Char} {cs : List Char}
    (hescape : ∀ c ∈ cs, ReadsQuoted quote (escape c)) : ReadsQuoted quote (cs.flatMap escape) := by
  induction cs with
  | nil =>
      intro text below
      simp [run]
  | cons c cs ih =>
      rw [List.flatMap_cons]
      exact (hescape c (by simp)).append (ih fun d hd => hescape d (by simp [hd]))

/-- A string is self-contained if nothing in it ends it early. -/
theorem reads_quoted {quote : Char} (hquote : quote = '\'' ∨ quote = '"') {cs : List Char}
    (hcs : ReadsQuoted quote cs) : Reads 0 0 (quote :: (cs ++ [quote])) [] := by
  intro depth text literals below
  have hslash : quote ≠ '\\' := by
    rcases hquote with rfl | rfl <;> decide
  rw [run, step, if_pos hquote, Option.bind_some, run_append, hcs, Option.bind_some]
  simp [run, step, hslash, resume]

/-! ## Template literals -/

/-- Reading a chunk in a template literal adds it to the chunk at hand. -/
theorem run_chunk {state next : ChunkState} {cs : List Char} (h : scanChunk state cs = some next)
    (text chunk : List Char) (parts : Literal) (below : List Frame) :
    run (.template state text chunk parts :: below) cs =
      some (.template next (text ++ cs) (chunk ++ cs) parts :: below) := by
  induction cs generalizing state text chunk with
  | nil =>
      obtain rfl := Option.some.inj h
      simp [run]
  | cons c cs ih =>
      obtain ⟨mid, hstep, hrest⟩ := Option.bind_eq_some_iff.mp h
      rw [run, step, hstep]
      exact (ih hrest _ _).trans (by simp)

/-- Reading a substitution in a template literal ends the chunk at hand. -/
theorem run_substitution {state : ChunkState} (hstate : state ≠ .escaped) {source : List Char}
    {found : List Literal} (hsource : Reads 0 0 source found) (text chunk : List Char)
    (parts : Literal) (below : List Frame) :
    run (.template state text chunk parts :: below) ('$' :: '\x7b' :: (source ++ ['\x7d'])) =
      some (.template .plain (text ++ '$' :: '\x7b' :: (source ++ ['\x7d'])) []
        ⟨parts.chunks ++ [.ofList chunk], parts.sources ++ [.ofList source]⟩ :: below) := by
  have hdollar : state.step '$' = some .dollar := by
    cases state with
    | escaped => exact absurd rfl hstate
    | plain => rfl
    | dollar => rfl
  have hbrace : ChunkState.dollar.step '\x7b' = none := rfl
  have hsource := hsource 0 [] []
  simp only [Nat.add_zero, List.nil_append] at hsource
  simp [run, step, hdollar, hbrace, run_append, hsource, closeBrace]

end Taglit.Lexical
