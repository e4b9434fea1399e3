import Taglit.Proofs.Output.Rewriting

/-!
# What rendering asks for

Rendering a pattern asks for a deferred value each time a token takes it.  To see this, a record is
*noted*: each deferred value then writes its name into a log before it does whatever it did.
`run_render_noted` says that the log can be read off the pattern and the record, whatever the
deferred values do, and that noting changes nothing else.

`render_add` says that a name with which no token starts might as well not be bound.
-/

namespace Taglit.Output

variable {m : Type → Type}

/-! ## Noting -/

/-- The placeholder with its name written into a log each time it is worked out. -/
def Placeholder.noted [Monad m] (name : String) :
    Placeholder m → Placeholder (StateT (List String) m)
  | text value => .text value
  | deferred value => .deferred do
    modify (· ++ [name])
    value

/-- The record with each deferred value noted. -/
def Placeholders.noted [Monad m] (record : Placeholders m) :
    Placeholders (StateT (List String) m) :=
  ⟨record.values.map fun entry => (entry.1, entry.2.noted entry.1)⟩

/-- Which entry is found does not depend on what the entries hold. -/
theorem Placeholders.longest?_map {n : Type → Type} (f : String × Placeholder m → Placeholder n)
    (values : List (String × Placeholder m)) (token : List Char) :
    longest? (values.map fun entry => (entry.1, f entry)) token =
      (longest? values token).map fun entry => (entry.1, f entry) := by
  induction values with
  | nil => rfl
  | cons entry values ih =>
      rw [List.map_cons, longest?, longest?, ih]
      cases longest? values token with
      | none => by_cases h : entry.1.toList.isPrefixOf token = true <;> simp [h]
      | some best =>
          by_cases h :
              (entry.1.toList.isPrefixOf token && best.1.length < entry.1.length) = true
          · simp [h]
          · simp [h]

/-! ## Tokens -/

/-- The name of a token. -/
def Segment.token? : Segment → Option (List Char)
  | literal _ => none
  | token name => some name

/-- The names of the tokens of a pattern, in order. -/
def Pattern.tokens (pattern : Pattern) : List (List Char) :=
  pattern.segments.filterMap Segment.token?

/-- The tokens of a pattern are its segments that are tokens. -/
theorem Pattern.mem_tokens {pattern : Pattern} {token : List Char} :
    token ∈ pattern.tokens ↔ .token token ∈ pattern.segments := by
  rw [tokens, List.mem_filterMap]
  constructor
  · rintro ⟨segment, hsegment, htoken⟩
    cases segment with
    | literal text => cases htoken
    | token name =>
        cases htoken
        exact hsegment
  · intro hsegment
    exact ⟨_, hsegment, rfl⟩

/-- The tokens of a pattern are those that one pass over its text comes to. -/
theorem Pattern.tokens_parse (s : String) : (parse s).tokens = tokensIn s.toList := by
  have hread : (fun segment : Segment => segment.token?.toList) =
      Segment.read (fun token => [token]) fun _ => [] := by
    funext segment
    cases segment with
    | literal text => simp [Segment.token?, Segment.read]
    | token name => rfl
  rw [tokens, parse, tokensIn, ← flatMap_read, ← hread]
  exact List.filterMap_eq_flatMap_toList _ _

/-- A pattern refers to a name iff one of its tokens starts with it. -/
theorem Pattern.references_iff {pattern : Pattern} {name : String} :
    pattern.references name = true ↔ ∃ token ∈ pattern.tokens, name.toList <+: token := by
  rw [references, List.any_eq_true]
  constructor
  · rintro ⟨segment, hsegment, hname⟩
    cases segment with
    | literal text => cases hname
    | token token => exact ⟨token, mem_tokens.mpr hsegment, List.isPrefixOf_iff_prefix.mp hname⟩
  · rintro ⟨token, htoken, hname⟩
    exact ⟨_, mem_tokens.mp htoken, List.isPrefixOf_iff_prefix.mpr hname⟩

/-- The deferred name that a token takes, if it takes one. -/
def demanded? (bindings : List (Binding m)) (token : List Char) : Option String :=
  match longestBound? (latest? bindings) token with
  | some (name, .deferred _) => some name
  | _ => none

/-! ## The log -/

section Log

variable [Monad m] [LawfulMonad m]

/-- Steps that each add to the log, whatever else they do, add one after the other. -/
theorem run_mapM_of_run {α β : Type} {step : α → StateT (List String) m β} {plain : α → m β}
    {written? : α → Option String}
    (h : ∀ a log, (step a).run log = (fun b => (b, log ++ (written? a).toList)) <$> plain a)
    (xs : List α) (log : List String) :
    (xs.mapM step).run log = (fun bs => (bs, log ++ xs.filterMap written?)) <$> xs.mapM plain := by
  induction xs generalizing log with
  | nil => simp
  | cons x xs ih =>
      have hlog : (written? x).toList ++ xs.filterMap written? = (x :: xs).filterMap written? := by
        cases hx : written? x <;> simp [hx]
      rw [List.mapM_cons, List.mapM_cons, ← hlog]
      simp [h, ih]

/-- A token writes the deferred name that it takes into the log. -/
theorem run_render_token (bindings : List (Binding m)) (name : List Char) (log : List String) :
    ((Segment.token name).render (Placeholders.ofBindings bindings).noted).run log =
      (fun text => (text, log ++ (demanded? bindings name).toList)) <$>
        (Segment.token name).render (.ofBindings bindings) := by
  rw [Segment.render, Segment.render, Placeholders.noted, demanded?, Placeholders.longest?_map,
    Placeholders.longest?_ofBindings]
  rcases longestBound? (latest? bindings) name with _ | ⟨bound, value | value⟩
  · simp
  · simp [Placeholder.noted, Placeholder.force]
  · simp [Placeholder.noted, Placeholder.force]

/-- Noting changes nothing but the log, in which the tokens write the deferred names that they
take. -/
theorem run_render_noted (bindings : List (Binding m)) (pattern : Pattern) (log : List String) :
    (pattern.render (Placeholders.ofBindings bindings).noted).run log =
      (fun text => (text, log ++ pattern.tokens.filterMap (demanded? bindings))) <$>
        pattern.render (.ofBindings bindings) := by
  -- a literal asks for nothing, so segment by segment the log is that of the tokens
  have hsegment : ∀ (segment : Segment) (log : List String),
      (segment.render (Placeholders.ofBindings bindings).noted).run log =
        (fun text => (text, log ++ (segment.token?.bind (demanded? bindings)).toList)) <$>
          segment.render (.ofBindings bindings) := by
    intro segment log
    cases segment with
    | literal text => simp [Segment.render, Segment.token?]
    | token name => exact run_render_token bindings name log
  rw [Pattern.render, Pattern.render, Pattern.tokens, List.filterMap_filterMap, StateT.run_bind,
    run_mapM_of_run hsegment]
  simp

end Log

/-! ## How often a name is asked for -/

/-- A name that a token asks for is the longest bound one, and deferred. -/
theorem eq_some_of_demanded? {bindings : List (Binding m)} {token : List Char} {name : String}
    (h : demanded? bindings token = some name) :
    ∃ value, longestBound? (latest? bindings) token = some (name, .deferred value) := by
  rw [demanded?] at h
  split at h
  · next value hfound =>
      cases h
      exact ⟨value, hfound⟩
  · cases h

/-- A deferred name is asked for by the tokens whose longest bound name it is. -/
theorem demanded?_eq_some_iff {bindings : List (Binding m)} {name : String} {value : m String}
    (h : latest? bindings name = some (.deferred value)) (token : List Char) :
    demanded? bindings token = some name ↔
      (longestBound? (latest? bindings) token).map Prod.fst = some name := by
  constructor
  · intro hdemanded
    obtain ⟨value', hfound⟩ := eq_some_of_demanded? hdemanded
    rw [hfound, Option.map_some]
  · intro hfound
    obtain ⟨⟨found, placeholder⟩, hentry, rfl⟩ := Option.map_eq_some_iff.mp hfound
    obtain ⟨hlatest, -⟩ := lookup_of_longestBound? hentry
    rw [h] at hlatest
    cases hlatest
    rw [demanded?, hentry]

/-- A deferred name is asked for as often as there are such tokens. -/
theorem count_demanded {bindings : List (Binding m)} {name : String} {value : m String}
    (h : latest? bindings name = some (.deferred value)) (tokens : List (List Char)) :
    (tokens.filterMap (demanded? bindings)).count name =
      tokens.countP fun token =>
        (longestBound? (latest? bindings) token).map Prod.fst == some name := by
  rw [List.count_filterMap]
  congr 1
  funext token
  rw [Bool.eq_iff_iff, beq_iff_eq, beq_iff_eq]
  exact demanded?_eq_some_iff h token

/-- Only deferred names are asked for. -/
theorem exists_deferred_of_mem {bindings : List (Binding m)} {tokens : List (List Char)}
    {name : String} (h : name ∈ tokens.filterMap (demanded? bindings)) :
    ∃ value token, latest? bindings name = some (.deferred value) ∧ token ∈ tokens ∧
      name.toList <+: token := by
  obtain ⟨token, htoken, hdemanded⟩ := List.mem_filterMap.mp h
  obtain ⟨value, hfound⟩ := eq_some_of_demanded? hdemanded
  obtain ⟨hlatest, hname⟩ := lookup_of_longestBound? hfound
  exact ⟨value, token, hlatest, htoken, hname⟩

/-! ## Names with which no token starts -/

/-- No token starts with a name to which the pattern does not refer. -/
theorem not_isPrefix_of_references {pattern : Pattern} {name : String}
    (h : pattern.references name = false) {token : List Char} (htoken : token ∈ pattern.tokens) :
    ¬ name.toList <+: token := by
  intro hname
  rw [Pattern.references_iff.mpr ⟨token, htoken, hname⟩] at h
  cases h

/-- A name with which no token starts is not asked for. -/
theorem not_mem_demanded {pattern : Pattern} {name : String} (h : pattern.references name = false)
    (bindings : List (Binding m)) : name ∉ pattern.tokens.filterMap (demanded? bindings) := by
  intro hmem
  obtain ⟨-, token, -, htoken, hname⟩ := exists_deferred_of_mem hmem
  exact not_isPrefix_of_references h htoken hname

variable [Monad m] [LawfulMonad m]

/-- Records that fill in the segments alike render the pattern alike. -/
theorem Pattern.render_congr {pattern : Pattern} {record other : Placeholders m}
    (h : ∀ segment ∈ pattern.segments, segment.render record = segment.render other) :
    pattern.render record = pattern.render other := by
  have hparts : pattern.segments.mapM (Segment.render record) =
      pattern.segments.mapM (Segment.render other) := by
    obtain ⟨source, segments⟩ := pattern
    induction segments with
    | nil => rfl
    | cons segment segments ih =>
        rw [List.forall_mem_cons] at h
        rw [List.mapM_cons, List.mapM_cons, h.1, ih h.2]
  rw [render, render, hparts]

/-- A name with which no token starts might as well not be bound, or be bound to anything else. -/
theorem render_add {pattern : Pattern} {name : String} (h : pattern.references name = false)
    (bindings : List (Binding m)) (placeholder : Placeholder m) :
    pattern.render ((Placeholders.ofBindings bindings).add ⟨name, placeholder⟩) =
      pattern.render (.ofBindings bindings) := by
  have hconcat : (Placeholders.ofBindings bindings).add ⟨name, placeholder⟩ =
      .ofBindings (bindings ++ [⟨name, placeholder⟩]) := by
    rw [Placeholders.ofBindings, Placeholders.ofBindings, List.foldl_concat]
  rw [hconcat]
  refine Pattern.render_congr fun segment hsegment => ?_
  cases segment with
  | literal text => rfl
  | token token =>
      -- the name is no front of the token, and other names are bound as before
      have hfound : longestBound? (latest? (bindings ++ [⟨name, placeholder⟩])) token =
          longestBound? (latest? bindings) token := by
        refine longestBound?_congr fun other hother => ?_
        have hne : other ≠ name := fun heq =>
          not_isPrefix_of_references h (Pattern.mem_tokens.mpr hsegment) (heq ▸ hother)
        rw [latest?_concat, if_neg hne]
      rw [Segment.render, Segment.render, Placeholders.longest?_ofBindings,
        Placeholders.longest?_ofBindings, hfound]

end Taglit.Output
