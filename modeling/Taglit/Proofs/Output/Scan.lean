import Taglit.Proofs.Output.Segments

/-!
# Splitting a pattern by offsets

A pattern can also be split in one walk over its characters, each of which comes with the offset of
its first byte.  Literal characters gather until a token comes.  The walk passes the name of the
token and keeps the offsets of its two ends, between which the name is cut out of the text.

`Scan.step` is one turn of that walk.  `Scan.Reaches` is what holds before every turn, and
`parse_canonical` says what follows: the walk finds the segments of the pattern, and it cuts between
characters only.
-/

namespace Taglit.Output

/-! ## The walk -/

/-- Characters with the offsets at which they start. -/
def indexed (offset : Nat) : List Char → List (Nat × Char)
  | [] => []
  | c :: cs => (offset, c) :: indexed (offset + c.utf8Size) cs

/-- What the walk has found: literal characters, or the name of a token from one offset up to
another. -/
inductive Span where
  | literal (text : List Char)
  | range (start stop : Nat)

/-- Where the walk is: the characters that have not been passed, the literal ones since the last
token, and what has been found. -/
structure Scan where
  ahead : List (Nat × Char)
  pending : List Char := []
  spans : List Span := []

/-- Pass the characters of a name that has been passed up to `stop`.  Gives the offset of its end
and the characters after it. -/
def passName (stop : Nat) : List (Nat × Char) → Nat × List (Nat × Char)
  | [] => (stop, [])
  | (offset, c) :: ahead =>
    if isTokenTail c then passName (offset + c.utf8Size) ahead else (stop, (offset, c) :: ahead)

namespace Scan

/-- What has been found, the pending characters included. -/
def flush (w : Scan) : List Span :=
  if w.pending.isEmpty then w.spans else w.spans ++ [.literal w.pending]

/-- One turn, unless all characters have been passed. -/
def step (w : Scan) : Option Scan :=
  match w.ahead with
  | [] => none
  | (offset, c) :: ahead =>
    if opensToken c (ahead.map (·.2)) then
      let (stop, ahead) := passName (offset + 1) ahead
      some { ahead, spans := w.flush ++ [.range (offset + 1) stop] }
    else some { w with ahead, pending := w.pending ++ [c] }

end Scan

/-- Passing a name leaves no more characters than there were. -/
theorem length_passName_le (stop : Nat) (ahead : List (Nat × Char)) :
    (passName stop ahead).2.length ≤ ahead.length := by
  fun_induction passName stop ahead with
  | case1 => exact Nat.le_refl _
  | case2 stop offset c ahead _ ih => exact Nat.le_succ_of_le ih
  | case3 => exact Nat.le_refl _

/-- Every turn passes at least one character. -/
theorem Scan.length_ahead_lt {w next : Scan} (h : w.step = some next) :
    next.ahead.length < w.ahead.length := by
  unfold step at h
  split at h
  · cases h
  · next offset c ahead hahead =>
      rw [hahead, List.length_cons]
      split at h
      · cases h
        exact Nat.lt_succ_of_le (length_passName_le _ ahead)
      · cases h
        exact Nat.lt_succ_self _

/-- Turn after turn, until there is none. -/
def Scan.run (w : Scan) : Scan :=
  match h : w.step with
  | none => w
  | some next =>
    have := length_ahead_lt h
    next.run
termination_by w.ahead.length

/-- What the walk finds in a text. -/
def spansOf (s : String) : List Span :=
  (Scan.run { ahead := indexed 0 s.toList }).flush

/-! ## Cutting between characters -/

/-- The number of bytes of characters. -/
def width (cs : List Char) : Nat :=
  (String.ofList cs).utf8ByteSize

/-- No characters take no bytes. -/
@[simp] theorem width_nil : width [] = 0 := rfl

/-- The bytes of characters after characters. -/
theorem width_append (xs ys : List Char) : width (xs ++ ys) = width xs + width ys := by
  rw [width, String.ofList_append, String.utf8ByteSize_append, width, width]

/-- The bytes of one character more. -/
theorem width_cons (c : Char) (cs : List Char) : width (c :: cs) = c.utf8Size + width cs := by
  simp [width]

/-- A span shows a segment of a text.  The name of a token is cut out between two positions of the
text, which are places between characters. -/
def Span.Shows (s : String) : Span → Segment → Prop
  | literal text, .literal text' => text = text'
  | range start stop, .token name =>
    ∃ (first last : s.Pos) (h : first ≤ last),
      first.offset.byteIdx = start ∧ last.offset.byteIdx = stop ∧
      (s.slice first last h).copy = .ofList name
  | _, _ => False

/-- What stands between other characters is cut out by their widths. -/
theorem shows_range {s : String} {before name after : List Char}
    (h : s.toList = before ++ name ++ after) :
    (Span.range (width before) (width (before ++ name))).Shows s (.token name) := by
  have hs : s = .ofList before ++ (.ofList name ++ .ofList after) := by
    rw [← String.ofList_append, ← String.ofList_append, ← List.append_assoc, ← h,
      String.ofList_toList]
  have hs' : s = .ofList (before ++ name) ++ .ofList after := by
    rw [← String.ofList_append, ← h, String.ofList_toList]
  have hfirst := String.Pos.splits_ofEqAppend hs
  have hlast := String.Pos.splits_ofEqAppend hs'
  have hcopy : ∃ hle,
      (s.slice (String.Pos.ofEqAppend hs) (String.Pos.ofEqAppend hs') hle).copy =
        .ofList name := by
    rw [String.copy_slice_eq_iff_splits]
    refine ⟨.ofList before, .ofList after, hfirst, ?_⟩
    rwa [← String.ofList_append]
  obtain ⟨hle, hcopy⟩ := hcopy
  exact ⟨_, _, hle, congrArg _ hfirst.offset_eq_rawEndPos, congrArg _ hlast.offset_eq_rawEndPos,
    hcopy⟩

/-! ## What holds before every turn -/

/-- The characters without their offsets. -/
theorem map_indexed (offset : Nat) (cs : List Char) : (indexed offset cs).map (·.2) = cs := by
  induction cs generalizing offset with
  | nil => rfl
  | cons c cs ih => rw [indexed, List.map_cons, ih]

/-- A name ends where its last character does. -/
theorem passName_indexed (offset : Nat) (cs : List Char) :
    passName offset (indexed offset cs) =
      (offset + width (cs.takeWhile isTokenTail),
        indexed (offset + width (cs.takeWhile isTokenTail)) (cs.dropWhile isTokenTail)) := by
  induction cs generalizing offset with
  | nil => rfl
  | cons c cs ih =>
      rw [indexed, passName]
      by_cases hc : isTokenTail c = true
      · rw [if_pos hc, ih, List.takeWhile_cons_of_pos hc, List.dropWhile_cons_of_pos hc, width_cons,
          Nat.add_assoc]
      · rw [if_neg hc, List.takeWhile_cons_of_neg hc, List.dropWhile_cons_of_neg hc]
        rfl

/-- The name of a token starts after its dollar sign, which is one byte wide, and is passed to its
end. -/
theorem passName_token (before : List Char) {d : Char} (hd : isTokenHead d = true)
    (cs : List Char) :
    passName (width before + 1) (indexed (width before + 1) (d :: cs)) =
      (width (before ++ '$' :: d :: cs.takeWhile isTokenTail),
        indexed (width (before ++ '$' :: d :: cs.takeWhile isTokenTail))
          (cs.dropWhile isTokenTail)) := by
  have htail : isTokenTail d = true := by
    simp only [isTokenHead, isTokenTail, Char.isAlphanum, Bool.or_eq_true] at hd ⊢
    exact hd.imp_left .inl
  have hstop : width before + 1 + width (d :: cs.takeWhile isTokenTail) =
      width (before ++ '$' :: d :: cs.takeWhile isTokenTail) := by
    rw [width_append, width_cons '$', Nat.add_assoc]
    rfl
  rw [passName_indexed, List.takeWhile_cons_of_pos htail, List.dropWhile_cons_of_pos htail, hstop]

/-- The walk over a text has passed the characters `before`, and `after` are ahead.  What it has
found are the segments `found`, and the rest of the segments are those of the pending characters and
of what is ahead. -/
structure Scan.Reaches (s : String) (w : Scan) (before after : List Char)
    (found : List Segment) : Prop where
  chars : s.toList = before ++ after
  ahead : w.ahead = indexed (width before) after
  shows : List.Forall₂ (Span.Shows s) w.spans found
  segments : segmentsOf s.toList = found ++ w.pending.foldr consLiteral (segmentsOf after)

namespace Scan.Reaches

variable {s : String} {w : Scan} {before after : List Char} {found : List Segment}

/-- Before the first turn, nothing has been passed. -/
theorem start (s : String) : Reaches s { ahead := indexed 0 s.toList } [] s.toList [] where
  chars := rfl
  ahead := rfl
  shows := .nil
  segments := rfl

/-- What has been found and what is pending make up segments. -/
theorem forall₂_flush (h : Reaches s w before after found) :
    List.Forall₂ (Span.Shows s) w.flush (found ++ asLiteral w.pending) := by
  unfold flush asLiteral
  split
  · rw [List.append_nil]
    exact h.shows
  · exact List.rel_append h.shows (.cons rfl .nil)

/-- A character that opens no token is pending after the turn. -/
theorem step_literal {c : Char} {cs : List Char} (h : Reaches s w before (c :: cs) found)
    (hopen : opensToken c cs = false) :
    ∃ next, w.step = some next ∧ Reaches s next (before ++ [c]) cs found := by
  refine ⟨{ w with ahead := indexed (width before + c.utf8Size) cs, pending := w.pending ++ [c] },
    ?_, ?_⟩
  · rw [step, h.ahead, indexed]
    dsimp only
    rw [map_indexed, hopen, if_neg Bool.false_ne_true]
  · refine ⟨?_, ?_, h.shows, ?_⟩
    · rw [h.chars, List.append_assoc, List.singleton_append]
    · rw [width_append, width_cons, width_nil, Nat.add_zero]
    · rw [h.segments, segmentsOf_literal hopen, List.foldr_append]
      rfl

/-- A token is cut out, and the pending characters are a segment before it. -/
theorem step_token {d : Char} {cs : List Char} (h : Reaches s w before ('$' :: d :: cs) found)
    (hd : isTokenHead d = true) :
    ∃ next, w.step = some next ∧
      Reaches s next (before ++ '$' :: d :: cs.takeWhile isTokenTail) (cs.dropWhile isTokenTail)
        (found ++ asLiteral w.pending ++ [.token (d :: cs.takeWhile isTokenTail)]) := by
  have hopen : opensToken '$' (d :: cs) = true := by simp [opensToken, hd]
  have hdollar : ('$' : Char).utf8Size = 1 := rfl
  have hstart : width (before ++ ['$']) = width before + 1 := width_append before ['$']
  let stop := width (before ++ '$' :: d :: cs.takeWhile isTokenTail)
  refine ⟨{ ahead := indexed stop (cs.dropWhile isTokenTail)
            spans := w.flush ++ [.range (width before + 1) stop] }, ?_, ?_⟩
  · rw [step, h.ahead, indexed]
    dsimp only
    rw [map_indexed, hopen, if_pos rfl, hdollar, passName_token before hd]
  · refine ⟨?_, rfl, List.rel_append h.forall₂_flush (.cons ?_ .nil), ?_⟩
    · rw [h.chars, List.append_assoc, List.cons_append, List.cons_append,
        List.takeWhile_append_dropWhile]
    · -- the name stands between the dollar sign and what is ahead
      have hcut : s.toList = before ++ ['$'] ++ (d :: cs.takeWhile isTokenTail) ++
          cs.dropWhile isTokenTail := by
        rw [h.chars, List.append_assoc, List.append_assoc, List.singleton_append, List.cons_append,
          List.takeWhile_append_dropWhile]
      have hshows := shows_range hcut
      rwa [hstart, List.append_assoc, List.singleton_append] at hshows
    · rw [h.segments, segmentsOf_token hd, foldr_consLiteral]
      · simp
      · rintro _ ⟨⟩
        exact ⟨_, rfl⟩

/-- One turn goes on from one place to another; there is none at the end only. -/
theorem step (h : Reaches s w before after found) :
    w.step = none ∧ after = [] ∨
      ∃ next before after found, w.step = some next ∧ Reaches s next before after found := by
  cases after with
  | nil =>
      refine .inl ⟨?_, rfl⟩
      rw [Scan.step, h.ahead, indexed]
  | cons c cs =>
      right
      rcases opensToken_cases c cs with hopen | ⟨d, rest, rfl, rfl, hd⟩
      · obtain ⟨next, hstep, hnext⟩ := h.step_literal hopen
        exact ⟨next, _, _, _, hstep, hnext⟩
      · obtain ⟨next, hstep, hnext⟩ := h.step_token hd
        exact ⟨next, _, _, _, hstep, hnext⟩

end Scan.Reaches

/-- The walk comes to the end of the text. -/
theorem Scan.Reaches.run {s : String} (w : Scan) {before after : List Char} {found : List Segment}
    (h : Reaches s w before after found) : ∃ before found, Reaches s w.run before [] found := by
  fun_induction Scan.run w generalizing before after found with
  | case1 w hnone =>
      rcases h.step with ⟨-, rfl⟩ | ⟨next, _, _, _, hstep, -⟩
      · exact ⟨before, found, h⟩
      · rw [hnone] at hstep
        cases hstep
  | case2 w next hsome _ ih =>
      rcases h.step with ⟨hnone, -⟩ | ⟨next', _, _, _, hstep, hnext⟩
      · rw [hnone] at hsome
        cases hsome
      · rw [hsome] at hstep
        cases hstep
        exact ih hnext

/-- The walk finds the segments of a text, one by one. -/
theorem forall₂_spansOf (s : String) :
    List.Forall₂ (Span.Shows s) (spansOf s) (segmentsOf s.toList) := by
  obtain ⟨before, found, h⟩ := Scan.Reaches.run _ (.start s)
  have hsegments := h.segments
  rw [segmentsOf, foldr_consLiteral (by simp), List.append_nil] at hsegments
  rw [hsegments]
  exact h.forall₂_flush

/-- Splitting a pattern loses nothing and gives a normal form.

* Written one after the other, the segments are the text; so is the pattern rendered with nothing
  bound.
* No literal is empty, none stands next to another, and no token starts in one.  Every token has a
  name, which goes as far as it can.
* The walk by offsets finds these segments, and it cuts the names out between positions of the text.
* No other segments in this form are the text when they are written one after the other. -/
theorem Pattern.parse_canonical (s : String) :
    (parse s).segments.flatMap Segment.source = s.toList ∧
    ((parse s).render ({} : Placeholders Id) : Id String) = s ∧
    IsCanonical (parse s).segments ∧
    List.Forall₂ (Span.Shows s) (spansOf s) (parse s).segments ∧
    ∀ segments, IsCanonical segments → segments.flatMap Segment.source = s.toList →
      segments = (parse s).segments :=
  ⟨sources_segmentsOf s.toList, render_parse_empty s, isCanonical_segmentsOf s.toList,
    forall₂_spansOf s, fun _ h hsources => eq_segmentsOf_iff.mpr ⟨h, hsources⟩⟩

end Taglit.Output
