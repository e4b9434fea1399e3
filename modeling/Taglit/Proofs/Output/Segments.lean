import Taglit.Output.Pattern
import Mathlib.Data.List.Chain

/-!
# Segments of a pattern

Splitting a pattern into segments loses nothing: written one after the other, the segments give the
characters back.  `IsCanonical` is the form that they have: every segment is proper, and no two of
them stand next to each other that would have been split in another way.

`eq_segmentsOf_iff` says that the two facts together determine the segments.
-/

namespace Taglit.Output

/-! ## Where a token starts -/

/-- Whether a character opens a token, given the characters after it. -/
def opensToken (c : Char) (cs : List Char) : Bool :=
  c == '$' && cs.head?.any isTokenHead

/-- A token is split off with its name as long as it can be. -/
theorem segmentsOf_token {c : Char} (hc : isTokenHead c = true) (cs : List Char) :
    segmentsOf ('$' :: c :: cs) =
      .token (c :: cs.takeWhile isTokenTail) :: segmentsOf (cs.dropWhile isTokenTail) := by
  rw [segmentsOf, if_pos hc]

/-- A character that opens no token is a literal one. -/
theorem segmentsOf_literal {c : Char} {cs : List Char} (h : opensToken c cs = false) :
    segmentsOf (c :: cs) = consLiteral c (segmentsOf cs) := by
  by_cases hdollar : c = '$'
  · subst hdollar
    cases cs with
    | nil => simp [segmentsOf]
    | cons d cs =>
        have hd : ¬ isTokenHead d = true := by simpa [opensToken] using h
        rw [segmentsOf, if_neg hd]
  · rw [segmentsOf]
    intro _ _ hc
    exact absurd hc hdollar

/-- The two ways in which splitting goes on. -/
theorem opensToken_cases (c : Char) (cs : List Char) :
    opensToken c cs = false ∨ ∃ d rest, c = '$' ∧ cs = d :: rest ∧ isTokenHead d = true := by
  cases h : opensToken c cs with
  | false => exact .inl rfl
  | true =>
      simp only [opensToken, Bool.and_eq_true, beq_iff_eq, Option.any_eq_true] at h
      obtain ⟨hc, d, hd, hhead⟩ := h
      obtain ⟨rest, rfl⟩ := List.head?_eq_some_iff.mp hd
      exact .inr ⟨d, rest, hc, rfl, hhead⟩

/-! ## Nothing is lost -/

/-- One more literal character is one more character. -/
theorem sources_consLiteral (c : Char) (segments : List Segment) :
    (consLiteral c segments).flatMap Segment.source = c :: segments.flatMap Segment.source := by
  unfold consLiteral
  split <;> rfl

/-- Written one after the other, the segments give back what was split. -/
theorem sources_segmentsOf (cs : List Char) : (segmentsOf cs).flatMap Segment.source = cs := by
  fun_induction segmentsOf cs with
  | case1 => rfl
  | case2 c cs _ ih =>
      rw [List.flatMap_cons, ih, Segment.source, List.cons_append, List.cons_append,
        List.takeWhile_append_dropWhile]
  | case3 c cs _ ih => rw [sources_consLiteral, ih]
  | case4 c cs _ ih => rw [sources_consLiteral, ih]

/-- With nothing bound, a segment is rendered as it was written. -/
theorem render_empty {m : Type → Type} [Monad m] :
    (Segment.render ({} : Placeholders m)) = fun segment => pure segment.source := by
  funext segment
  cases segment <;> rfl

/-- With nothing bound, a pattern is rendered as it was written. -/
theorem Pattern.render_parse_empty {m : Type → Type} [Monad m] [LawfulMonad m] (s : String) :
    (parse s).render ({} : Placeholders m) = pure s := by
  have hparts : ((segmentsOf s.toList).map Segment.source).flatten = s.toList := by
    rw [← List.flatMap_def, sources_segmentsOf]
  rw [render, parse, render_empty, List.mapM_pure, pure_bind, hparts, String.ofList_toList]

/-! ## The normal form -/

/-- Whether characters are the name of a token: a letter or an underscore, and then letters, digits
and underscores. -/
def isTokenName : List Char → Bool
  | [] => false
  | c :: cs => isTokenHead c && cs.all isTokenTail

/-- A segment that splitting can give: a literal is not empty and no token starts in it, and a token
has a name. -/
def Segment.IsProper : Segment → Prop
  | literal text => text ≠ [] ∧ ∀ c, isTokenHead c = true → ¬ ['$', c] <:+: text
  | token name => isTokenName name = true

/-- Whether a segment can come right before another: literals are not split, and neither are
names. -/
def Segment.Precedes : Segment → Segment → Prop
  | literal _, literal _ => False
  | token _, literal text => ∀ c, text.head? = some c → isTokenTail c = false
  | _, token _ => True

/-- Segments that are proper and stand in an order in which splitting can give them. -/
structure IsCanonical (segments : List Segment) : Prop where
  proper : ∀ x ∈ segments, x.IsProper
  chain : segments.IsChain Segment.Precedes

/-- No segments are in normal form. -/
theorem isCanonical_nil : IsCanonical [] :=
  ⟨List.forall_mem_nil _, .nil⟩

/-- So are segments in normal form without the first. -/
theorem IsCanonical.tail {x : Segment} {segments : List Segment} (h : IsCanonical (x :: segments)) :
    IsCanonical segments :=
  ⟨(List.forall_mem_cons.mp h.proper).2, h.chain.tail⟩

/-- So are they with a proper one before them that can come there. -/
theorem isCanonical_cons {x : Segment} {segments : List Segment} (hx : x.IsProper)
    (hhead : ∀ y, segments.head? = some y → x.Precedes y) (h : IsCanonical segments) :
    IsCanonical (x :: segments) :=
  ⟨List.forall_mem_cons.mpr ⟨hx, h.proper⟩, List.isChain_cons.mpr ⟨hhead, h.chain⟩⟩

/-! ## What is split is in normal form -/

/-- A segment is not empty, so that the first one shows the first character. -/
theorem head?_sources {x : Segment} (hx : x.IsProper) (segments : List Segment) :
    ((x :: segments).flatMap Segment.source).head? = x.source.head? := by
  cases x with
  | literal text => rw [List.flatMap_cons, Segment.source, List.head?_append_of_ne_nil _ hx.1]
  | token name => rfl

/-- A literal stays proper with one more character, unless that opens a token. -/
theorem isProper_literal_cons {c : Char} {text : List Char} (h : Segment.IsProper (.literal text))
    (hopen : opensToken c text = false) : Segment.IsProper (.literal (c :: text)) := by
  refine ⟨List.cons_ne_nil _ _, fun d hd hinside => ?_⟩
  rcases List.infix_cons_iff.mp hinside with hfirst | hinside
  · obtain ⟨hc, hrest⟩ := List.cons_prefix_cons.mp hfirst
    obtain ⟨rest, rfl⟩ := hrest
    simp [opensToken, ← hc, hd] at hopen
  · exact h.2 d hd hinside

/-- No token starts in a single character. -/
theorem isProper_literal_singleton (c : Char) : Segment.IsProper (.literal [c]) := by
  refine ⟨List.cons_ne_nil _ _, fun d _ hinside => ?_⟩
  have hlength := hinside.length_le
  simp at hlength

/-- A literal character keeps the normal form, unless it opens a token. -/
theorem isCanonical_consLiteral {c : Char} {segments : List Segment} (h : IsCanonical segments)
    (hopen : opensToken c (segments.flatMap Segment.source) = false) :
    IsCanonical (consLiteral c segments) := by
  cases segments with
  | nil => exact isCanonical_cons (isProper_literal_singleton c) (by simp) isCanonical_nil
  | cons x segments =>
      have hx : x.IsProper := h.proper x List.mem_cons_self
      rw [opensToken, head?_sources hx] at hopen
      cases x with
      | literal text =>
          -- the literal grows, and what comes after it stays the same
          refine isCanonical_cons (isProper_literal_cons hx hopen) (fun y hy => ?_) h.tail
          have hprecedes := (List.isChain_cons.mp h.chain).1 y hy
          cases y with
          | literal _ => exact hprecedes
          | token _ => exact hprecedes
      | token name =>
          refine isCanonical_cons (isProper_literal_singleton c) (fun y hy => ?_) h
          cases hy
          trivial

/-- A dollar sign does not continue a name. -/
theorem isTokenTail_dollar : isTokenTail '$' = false := by decide

/-- A token that is as long as it can be comes before whatever is split off the rest. -/
theorem precedes_of_dropWhile {name cs : List Char} {y : Segment}
    (h : IsCanonical (segmentsOf (cs.dropWhile isTokenTail)))
    (hy : (segmentsOf (cs.dropWhile isTokenTail)).head? = some y) :
    (Segment.token name).Precedes y := by
  obtain ⟨segments, hsegments⟩ := List.head?_eq_some_iff.mp hy
  cases y with
  | token _ => trivial
  | literal text =>
      intro c hc
      have hproper : Segment.IsProper (.literal text) := h.proper _ (hsegments ▸ List.mem_cons_self)
      have hfirst := head?_sources hproper segments
      rw [← hsegments, sources_segmentsOf, Segment.source, hc] at hfirst
      simpa [hfirst] using List.head?_dropWhile_not isTokenTail cs

/-- What is split is in normal form. -/
theorem isCanonical_segmentsOf (cs : List Char) : IsCanonical (segmentsOf cs) := by
  fun_induction segmentsOf cs with
  | case1 => exact isCanonical_nil
  | case2 c cs hc ih =>
      refine isCanonical_cons ?_ (fun y hy => precedes_of_dropWhile ih hy) ih
      show (isTokenHead c && (cs.takeWhile isTokenTail).all isTokenTail) = true
      rw [hc, List.all_takeWhile, Bool.and_self]
  | case3 c cs hc ih =>
      refine isCanonical_consLiteral ih ?_
      rw [sources_segmentsOf]
      simpa [opensToken] using hc
  | case4 c cs hdollar ih =>
      refine isCanonical_consLiteral ih ?_
      rw [sources_segmentsOf]
      rcases opensToken_cases c cs with hopen | ⟨d, rest, hc, hcs, -⟩
      · exact hopen
      · exact absurd hcs (hdollar d rest hc)

/-! ## The normal form is unique -/

/-- What follows a token in normal form does not continue its name. -/
theorem dropWhile_sources {name : List Char} {segments : List Segment}
    (h : IsCanonical (.token name :: segments)) :
    (segments.flatMap Segment.source).takeWhile isTokenTail = [] ∧
      (segments.flatMap Segment.source).dropWhile isTokenTail =
        segments.flatMap Segment.source := by
  have hnot : ∀ c, (segments.flatMap Segment.source).head? = some c → isTokenTail c = false := by
    intro c hc
    cases segments with
    | nil => cases hc
    | cons y segments =>
        have hprecedes := (List.isChain_cons.mp h.chain).1 y rfl
        rw [head?_sources (h.tail.proper y List.mem_cons_self)] at hc
        cases y with
        | literal text => exact hprecedes c hc
        | token _ =>
            cases hc
            exact isTokenTail_dollar
  cases hcs : segments.flatMap Segment.source with
  | nil => exact ⟨rfl, rfl⟩
  | cons c cs => simp [hnot c (by rw [hcs]; rfl)]

/-- The segment of literal characters, if there are any. -/
def asLiteral (text : List Char) : List Segment :=
  if text.isEmpty then [] else [.literal text]

/-- Literal characters gather in one segment before segments that start with none. -/
theorem foldr_consLiteral {segments : List Segment}
    (hhead : ∀ y, segments.head? = some y → ∃ name, y = .token name) (text : List Char) :
    text.foldr consLiteral segments = asLiteral text ++ segments := by
  induction text with
  | nil => rfl
  | cons c text ih =>
      rw [List.foldr_cons, ih]
      cases text with
      | cons d text => rfl
      | nil =>
          cases segments with
          | nil => rfl
          | cons y segments =>
              obtain ⟨name, rfl⟩ := hhead y rfl
              rfl

/-- Characters in which no token starts are literal ones, also before a token. -/
theorem segmentsOf_append {text cs : List Char}
    (htext : ∀ c, isTokenHead c = true → ¬ ['$', c] <:+: text)
    (hcs : ∀ c, cs.head? = some c → isTokenHead c = false) :
    segmentsOf (text ++ cs) = text.foldr consLiteral (segmentsOf cs) := by
  induction text with
  | nil => rfl
  | cons c text ih =>
      have hopen : opensToken c (text ++ cs) = false := by
        rcases opensToken_cases c (text ++ cs) with hopen | ⟨d, rest, rfl, hcons, hd⟩
        · exact hopen
        · -- a token would start in the text, or where the rest begins
          cases text with
          | nil =>
              rw [List.nil_append] at hcons
              rw [hcs d (by rw [hcons]; rfl)] at hd
              cases hd
          | cons e text =>
              obtain ⟨rfl, -⟩ := List.cons.inj hcons
              exact absurd ⟨[], text, rfl⟩ (htext e hd)
      rw [List.cons_append, segmentsOf_literal hopen, List.foldr_cons,
        ih fun d hd hinside => htext d hd (List.infix_cons hinside)]

/-- Segments in normal form are what their own characters are split into. -/
theorem IsCanonical.segmentsOf_sources {segments : List Segment} (h : IsCanonical segments) :
    segmentsOf (segments.flatMap Segment.source) = segments := by
  induction segments with
  | nil => rw [List.flatMap_nil, segmentsOf]
  | cons x segments ih =>
      have ih := ih h.tail
      have hx : x.IsProper := h.proper x List.mem_cons_self
      rw [List.flatMap_cons]
      cases x with
      | literal text =>
          have hhead : ∀ y, segments.head? = some y → ∃ name, y = .token name := by
            intro y hy
            have hprecedes := (List.isChain_cons.mp h.chain).1 y hy
            cases y with
            | literal _ => exact hprecedes.elim
            | token name => exact ⟨name, rfl⟩
          -- a token follows, if anything does, so the literal is not continued
          have hdollar : ∀ c, (segments.flatMap Segment.source).head? = some c →
              isTokenHead c = false := by
            intro c hc
            cases segments with
            | nil => cases hc
            | cons y segments =>
                obtain ⟨name, rfl⟩ := hhead y rfl
                cases hc
                decide
          rw [Segment.source, segmentsOf_append hx.2 hdollar, ih, foldr_consLiteral hhead,
            asLiteral, if_neg (by simpa using hx.1), List.singleton_append]
      | token name =>
          cases name with
          | nil => cases hx
          | cons c cs =>
              obtain ⟨hc, hcs⟩ := Bool.and_eq_true_iff.mp hx
              obtain ⟨htake, hdrop⟩ := dropWhile_sources h
              have hall : ∀ d ∈ cs, isTokenTail d = true := List.all_eq_true.mp hcs
              rw [Segment.source, List.cons_append, List.cons_append, segmentsOf_token hc,
                List.takeWhile_append_of_pos hall, List.dropWhile_append_of_pos hall, htake, hdrop,
                ih, List.append_nil]

/-- The segments of a text are the ones that are in normal form and give the text back. -/
theorem eq_segmentsOf_iff {segments : List Segment} {cs : List Char} :
    segments = segmentsOf cs ↔ IsCanonical segments ∧ segments.flatMap Segment.source = cs := by
  constructor
  · rintro rfl
    exact ⟨isCanonical_segmentsOf cs, sources_segmentsOf cs⟩
  · rintro ⟨h, rfl⟩
    exact h.segmentsOf_sources.symm

end Taglit.Output
