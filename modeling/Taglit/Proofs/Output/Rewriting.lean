import Taglit.Proofs.Output.Binding
import Taglit.Proofs.Output.Filled
import Taglit.Proofs.Output.Segments

/-!
# Rendering as one pass over the text

A pattern is split into segments when it is made, and rendered segment by segment.  `onePass` has no
segments: it goes over the characters of a text once, from left to right, and makes something of
each token that it comes to and of each character in between.  What it makes of a token it does not
look at again, since it goes on with what stands after the token.  `flatMap_read` says that segments
read off one by one give the same.

`rewrite` is the pass that puts values in the place of tokens.  `render_eq_rewrite` says that
rendering is this pass, and that all that counts is what each name was bound to last.
-/

namespace Taglit.Output

/-! ## The pass -/

/-- The name of the token whose dollar sign stands right before the characters, as long as it can
be; empty if there is none. -/
def tokenAt : List Char → List Char
  | [] => []
  | c :: cs => if isTokenHead c then c :: cs.takeWhile isTokenTail else []

/-- What is made of the tokens of a text and of the characters in between, from left to right. -/
def onePass {α : Type} (onToken : List Char → List α) (onChar : Char → List α) (cs : List Char) :
    List α :=
  match cs with
  | [] => []
  | c :: cs =>
    if c = '$' ∧ tokenAt cs ≠ [] then
      onToken (tokenAt cs) ++ onePass onToken onChar (cs.drop (tokenAt cs).length)
    else onChar c ++ onePass onToken onChar cs
termination_by cs.length
decreasing_by
  · rw [List.length_drop, List.length_cons]
    omega
  · exact Nat.lt_succ_self _

/-- The names of the tokens of a text, in order. -/
def tokensIn (cs : List Char) : List (List Char) :=
  onePass (fun token => [token]) (fun _ => []) cs

/-- What stands in the place of a token: the value of the longest bound name that it starts with and
the characters after that name, or the token as it was written. -/
def rewriteToken (value : String → Option String) (token : List Char) : List Char :=
  match longestBound? value token with
  | none => '$' :: token
  | some (name, text) => text.toList ++ token.drop name.length

/-- The characters of a text with every token rewritten. -/
def rewrite (value : String → Option String) (cs : List Char) : List Char :=
  onePass (rewriteToken value) (fun c => [c]) cs

/-- The text that a name was bound to last. -/
def valueAfter (bindings : List (Binding Id)) (name : String) : Option String :=
  (latest? bindings name).map Placeholder.value

/-! ## Segments and the pass -/

/-- What is made of a segment. -/
def Segment.read {α : Type} (onToken : List Char → List α) (onChar : Char → List α) :
    Segment → List α
  | literal text => text.flatMap onChar
  | token name => onToken name

section Pass

variable {α : Type} (onToken : List Char → List α) (onChar : Char → List α)

/-- A name goes as far as it can. -/
theorem tokenAt_cons {c : Char} (hc : isTokenHead c = true) (cs : List Char) :
    tokenAt (c :: cs) = c :: cs.takeWhile isTokenTail := by
  rw [tokenAt, if_pos hc]

/-- The pass goes on after a token. -/
theorem onePass_token {c : Char} (hc : isTokenHead c = true) (cs : List Char) :
    onePass onToken onChar ('$' :: c :: cs) =
      onToken (c :: cs.takeWhile isTokenTail) ++
        onePass onToken onChar (cs.dropWhile isTokenTail) := by
  have hdrop :
      (c :: cs).drop (c :: cs.takeWhile isTokenTail).length = cs.dropWhile isTokenTail := by
    rw [List.length_cons, List.drop_succ_cons]
    have hleft : (cs.takeWhile isTokenTail ++ cs.dropWhile isTokenTail).drop
        (cs.takeWhile isTokenTail).length = cs.dropWhile isTokenTail := List.drop_left
    rwa [List.takeWhile_append_dropWhile] at hleft
  rw [onePass, tokenAt_cons hc, if_pos ⟨rfl, List.cons_ne_nil _ _⟩, hdrop]

/-- The pass goes on after a character that opens no token. -/
theorem onePass_literal {c : Char} {cs : List Char} (h : opensToken c cs = false) :
    onePass onToken onChar (c :: cs) = onChar c ++ onePass onToken onChar cs := by
  rw [onePass, if_neg]
  rintro ⟨rfl, hopen⟩
  cases cs with
  | nil => exact hopen rfl
  | cons d cs =>
      have hd : isTokenHead d = false := by simpa [opensToken] using h
      simp [tokenAt, hd] at hopen

/-- One more literal character is read as that character. -/
theorem read_consLiteral (c : Char) (segments : List Segment) :
    (consLiteral c segments).flatMap (Segment.read onToken onChar) =
      onChar c ++ segments.flatMap (Segment.read onToken onChar) := by
  unfold consLiteral
  split <;> simp [Segment.read]

/-- Segments that are read off one by one give what one pass over the characters gives. -/
theorem flatMap_read (cs : List Char) :
    (segmentsOf cs).flatMap (Segment.read onToken onChar) = onePass onToken onChar cs := by
  fun_induction segmentsOf cs with
  | case1 => rw [onePass]; rfl
  | case2 c cs hc ih => rw [List.flatMap_cons, ih, Segment.read, onePass_token onToken onChar hc]
  | case3 c cs hc ih =>
      have hopen : opensToken '$' (c :: cs) = false := by simpa [opensToken] using hc
      rw [read_consLiteral, ih, onePass_literal onToken onChar hopen]
  | case4 c cs hdollar ih =>
      rcases opensToken_cases c cs with hopen | ⟨d, rest, hc, hcs, -⟩
      · rw [read_consLiteral, ih, onePass_literal onToken onChar hopen]
      · exact absurd hcs (hdollar d rest hc)

end Pass

/-! ## Rendering and the pass -/

/-- A token is filled in by what its names were bound to last. -/
theorem filled_token (bindings : List (Binding Id)) (token : List Char) :
    (Segment.token token).filled (.ofBindings bindings) =
      rewriteToken (valueAfter bindings) token := by
  have hvalue : longestBound? (valueAfter bindings) token =
      (longestBound? (latest? bindings) token).map fun entry => (entry.1, entry.2.value) :=
    longestBound?_map Placeholder.value (latest? bindings) token
  rw [Segment.filled, rewriteToken, hvalue, Placeholders.longest?_ofBindings]
  cases longestBound? (latest? bindings) token <;> rfl

/-- Segments are filled in as the pass makes something of them. -/
theorem filled_eq_read (bindings : List (Binding Id)) :
    Segment.filled (.ofBindings bindings) =
      Segment.read (rewriteToken (valueAfter bindings)) fun c => [c] := by
  funext segment
  cases segment with
  | literal text => exact (List.flatMap_singleton' text).symm
  | token name => exact filled_token bindings name

/-- Rendering a pattern rewrites its text in one pass. -/
theorem render_ofBindings (s : String) (bindings : List (Binding Id)) :
    ((Pattern.parse s).render (.ofBindings bindings) : Id String) =
      .ofList (rewrite (valueAfter bindings) s.toList) := by
  rw [rewrite, ← flatMap_read, ← filled_eq_read]
  exact render_ofSource s (.ofBindings bindings)

/-! ## Where values go -/

/-- A segment in which the names that are bound, and no others, are tokens. -/
def Segment.resolve {α : Type} (lookup : String → Option α) : Segment → List Segment
  | literal text => [literal text]
  | token name =>
    match longestBound? lookup name with
    | none => [literal ('$' :: name)]
    | some (bound, _) => [token bound.toList, literal (name.drop bound.length)]

/-- The characters of a segment whose token is a bound name. -/
def Segment.plugged (value : String → Option String) : Segment → List Char
  | literal text => text
  | token name => ((value (.ofList name)).getD "").toList

/-- A token is rewritten into what it resolves to, if the same names are bound. -/
theorem rewriteToken_eq_plugged {value other : String → Option String}
    (h : ∀ name, (other name).isSome = (value name).isSome) (token : List Char) :
    rewriteToken other token =
      ((Segment.token token).resolve value).flatMap (Segment.plugged other) := by
  have hnone : ∀ name, value name = none → other name = none := by
    intro name hname
    rw [← Option.not_isSome_iff_eq_none, h, hname]
    exact Bool.false_ne_true
  rcases longestBound?_cases value token with
    ⟨hfound, hfree⟩ | ⟨name, text, hfound, htext, hname, hmax⟩
  · -- no front is bound, there as here
    have hother : longestBound? other token = none := by
      rw [longestBound?_congr fun name hname => (hnone name (hfree name hname)).trans
        (hfree name hname).symm]
      exact hfound
    simp [rewriteToken, Segment.resolve, Segment.plugged, hfound, hother]
  · obtain ⟨text', htext'⟩ : ∃ text', other name = some text' := by
      rw [← Option.isSome_iff_exists, h, htext]
      rfl
    have hother : longestBound? other token = some (name, text') :=
      longestBound?_eq_some htext' hname fun n hn => hmax n (h n ▸ hn)
    simp [rewriteToken, Segment.resolve, Segment.plugged, hfound, hother, htext']

/-- With the same names bound, a pattern is rendered by putting values between characters that stay
the same. -/
theorem render_eq_plugged (s : String) {bindings others : List (Binding Id)}
    (h : ∀ name, (valueAfter others name).isSome = (valueAfter bindings name).isSome) :
    ((Pattern.parse s).render (.ofBindings others) : Id String) =
      .ofList (((segmentsOf s.toList).flatMap (Segment.resolve (valueAfter bindings))).flatMap
        (Segment.plugged (valueAfter others))) := by
  have hsegment : Segment.filled (.ofBindings others) = fun segment =>
      (segment.resolve (valueAfter bindings)).flatMap (Segment.plugged (valueAfter others)) := by
    funext segment
    cases segment with
    | literal text => simp [Segment.filled, Segment.resolve, Segment.plugged]
    | token name => rw [filled_token, rewriteToken_eq_plugged h]
  rw [List.flatMap_assoc, ← hsegment]
  exact render_ofSource s (.ofBindings others)

/-! ## What does not count -/

/-- Whether a value is at hand or deferred does not count. -/
theorem valueAfter_eq (bindings : List (Binding Id)) (name : String) :
    valueAfter bindings name =
      ((bindings.map fun b => (b.name, b.placeholder.value)).reverse.find? (·.1 == name)).map
        (·.2) := by
  rw [valueAfter, latest?, ← List.map_reverse, List.find?_map, Option.map_map, Option.map_map]
  rfl

/-- Rendering a pattern is one pass over its text, in which every token is rewritten by the longest
bound name that it starts with.

* Each name counts as what it was bound to last.
* With the same names bound, the values are put between characters that stay the same; so a value is
  never looked at, whatever it holds.
* Nothing but what the names were bound to last counts: neither the order in which different names
  were bound, nor whether values are at hand or deferred. -/
theorem Pattern.render_eq_rewrite (s : String) (bindings : List (Binding Id)) :
    ((parse s).render (.ofBindings bindings) : Id String) =
      .ofList (rewrite (valueAfter bindings) s.toList) ∧
    (∃ pieces : List Segment, ∀ others : List (Binding Id),
      (∀ name, (valueAfter others name).isSome = (valueAfter bindings name).isSome) →
      ((parse s).render (.ofBindings others) : Id String) =
        .ofList (pieces.flatMap (Segment.plugged (valueAfter others)))) ∧
    ∀ others : List (Binding Id),
      (∀ name, valueAfter others name = valueAfter bindings name) ∨
        (others.Perm bindings ∧ (bindings.map Binding.name).Nodup) ∨
        (others.map fun b => (b.name, b.placeholder.value)) =
          bindings.map (fun b => (b.name, b.placeholder.value)) →
      ((parse s).render (.ofBindings others) : Id String) =
        (parse s).render (.ofBindings bindings) := by
  refine ⟨render_ofBindings s bindings, ⟨_, fun others h => render_eq_plugged s h⟩,
    fun others h => ?_⟩
  -- each of the three says that all names were bound last to the same texts
  have hvalue : valueAfter others = valueAfter bindings := by
    funext name
    rcases h with h | ⟨hperm, hnodup⟩ | h
    · exact h name
    · rw [valueAfter, valueAfter, latest?_perm hperm hnodup]
    · rw [valueAfter_eq, valueAfter_eq, h]
  rw [render_ofBindings, render_ofBindings, hvalue]

/-- A value that looks like a token is put in as it is. -/
example :
    rewrite (valueAfter [⟨"value", .text "$values"⟩, ⟨"values", .deferred "all"⟩])
      "$values.$valueX".toList = "all.$valuesX".toList := by
  have hvalue : "value".length = 5 := rfl
  have hvalues : "values".length = 6 := rfl
  simp [rewrite, onePass, tokenAt, isTokenHead, isTokenTail, rewriteToken, longestBound?,
    valueAfter, latest?, Placeholder.value, hvalue, hvalues]

end Taglit.Output
