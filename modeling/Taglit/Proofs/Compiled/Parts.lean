import Taglit.Compiled.Render
import Taglit.Proofs.Output.Demand

/-!
# Parts that are written on demand

The body of an iteration, the attributes and the body of a mixin that is used, and the function of a
module are deferred parts of what their templates are filled in with.  `Fills` lists the constructs
that have such parts.

`render_on_demand` says how often each deferred part is asked for, by any template that is given by
a text.
-/

namespace Taglit.Compiled

open Taglit.Output (Binding Format Pattern Placeholders latest? longestBound? tokensIn)

/-- A construct with deferred parts, which is the use of a mixin, an iteration or a module: its
template, what the names in it are bound to, and its text. -/
inductive Fills (format : Format) : Output.Template → List (Binding Id) → String → Prop where
  | call (attributes : List Attribute) (body : Body) :
    Fills format format.options.mixins
      [⟨"mixin", .text body.name⟩, ⟨"props", .deferred (propsText attributes)⟩,
        ⟨"attrs", .deferred (attrsText attributes)⟩,
        ⟨"children", .deferred (body.expression format)⟩, ⟨"content", .deferred body.html⟩]
      (mixinText format (.call attributes) body)
  | each (object value : String) (key : Option String) (body : Body) :
    Fills format format.options.each
      [⟨"key", .text (key.getD "_")⟩, ⟨"value", .text value⟩,
        ⟨"args", .text (key.elim value fun key => value ++ "," ++ key)⟩, ⟨"object", .text object⟩,
        ⟨"code", .deferred (body.code ";")⟩, ⟨"child", .deferred (body.tagged format)⟩]
      (eachText format object value key body)
  | whole (root : Root) (args : String) :
    Fills format format.options.modules
      [⟨"imports", .text ("\n".intercalate root.imports)⟩,
        ⟨"function", .deferred (root.function format args)⟩]
      (root.moduleSource format args)

/-- The text of a construct is its template filled in. -/
theorem Fills.render_eq {format : Format} {template : Output.Template}
    {bindings : List (Binding Id)} {text : String} (h : Fills format template bindings text) :
    template.render (.ofBindings bindings) = text := by
  cases h with
  | call attributes body => rfl
  | each object value key body => cases key <;> rfl
  | whole root args => rfl

/-- Rendering a template that is given by a text asks for deferred values on demand, and for nothing
else.

* Whatever the deferred values do, the names of those that are asked for are the same: each one as
  often as there are tokens in the text whose longest bound name it is.
* A name with which no token starts is not asked for, and what it is bound to changes nothing.
* So a use of a mixin, an iteration or a module is written without the parts that its template does
  not mention. -/
theorem render_on_demand {m : Type → Type} [Monad m] [LawfulMonad m] (s : String)
    (bindings : List (Binding m)) :
    (∃ forced : List String,
      (∀ log, ((Pattern.parse s).render (Placeholders.ofBindings bindings).noted).run log =
        (fun text => (text, log ++ forced)) <$> (Pattern.parse s).render (.ofBindings bindings)) ∧
      (∀ name value, latest? bindings name = some (.deferred value) →
        forced.count name = (tokensIn s.toList).countP fun token =>
          (longestBound? (latest? bindings) token).map Prod.fst == some name) ∧
      (∀ name, (∀ value, latest? bindings name ≠ some (.deferred value)) → name ∉ forced) ∧
      ∀ name, (Pattern.parse s).references name = false → name ∉ forced) ∧
    (∀ name, (Pattern.parse s).references name = true ↔
      ∃ token ∈ tokensIn s.toList, name.toList <+: token) ∧
    (∀ name placeholder, (Pattern.parse s).references name = false →
      (Pattern.parse s).render ((Placeholders.ofBindings bindings).add ⟨name, placeholder⟩) =
        (Pattern.parse s).render (.ofBindings bindings)) ∧
    ∀ format parts text, Fills format (.ofSource s) parts text → ∃ forced : List String,
      ((Pattern.parse s).render (Placeholders.ofBindings parts).noted).run [] = (text, forced) ∧
      ∀ name, (Pattern.parse s).references name = false → name ∉ forced ∧ ∀ placeholder,
        (Pattern.parse s).render ((Placeholders.ofBindings parts).add ⟨name, placeholder⟩) =
          text := by
  have htokens := Pattern.tokens_parse s
  refine ⟨⟨_, Output.run_render_noted bindings (.parse s), fun name value h => ?_,
    fun name h hmem => ?_, fun name h => Output.not_mem_demanded h bindings⟩, fun name => ?_,
    fun name placeholder h => Output.render_add h bindings placeholder,
    fun format parts text h => ?_⟩
  · rw [← htokens]
    exact Output.count_demanded h _
  · obtain ⟨value, -, hlatest, -⟩ := Output.exists_deferred_of_mem hmem
    exact h value hlatest
  · rw [← htokens]
    exact Pattern.references_iff
  · -- without a log the parts give the text, so with one they give it too
    have htext : (Pattern.parse s).render (.ofBindings parts) = text := h.render_eq
    refine ⟨(Pattern.parse s).tokens.filterMap (Output.demanded? parts), ?_, fun name hname => ?_⟩
    · rw [Output.run_render_noted, htext]
      rfl
    · refine ⟨Output.not_mem_demanded hname parts, fun placeholder => ?_⟩
      rw [Output.render_add hname, htext]

/-- Two tokens take a deferred name, which is worked out twice and counts how often that was.  All
tokens start with another one, which none takes, since there is always a longer name. -/
theorem render_on_demand_fronts :
    (Pattern.parse "$values.$valueX($value)").references "val" = true ∧
    (Pattern.parse "$values.$valueX($value)").references "list" = false ∧
    let bindings : List (Binding (StateM Nat)) :=
      [⟨"val", .deferred (pure "v")⟩, ⟨"values", .text "all"⟩,
        ⟨"value", .deferred (modifyGet fun n => (toString n, n + 1))⟩]
    ∃ forced : List String, forced.count "value" = 2 ∧ forced.count "val" = 0 ∧ "list" ∉ forced ∧
      ∀ log, ((Pattern.parse "$values.$valueX($value)").render
          (Placeholders.ofBindings bindings).noted).run log =
        (fun text => (text, log ++ forced)) <$>
          (Pattern.parse "$values.$valueX($value)").render (.ofBindings bindings) := by
  have hsegments : (Pattern.parse "$values.$valueX($value)").segments =
      [.token "values".toList, .literal ['.'], .token "valueX".toList, .literal ['('],
        .token "value".toList, .literal [')']] := by
    simp [Pattern.parse, Output.segmentsOf, Output.consLiteral, Output.isTokenHead,
      Output.isTokenTail]
  have hfree : (Pattern.parse "$values.$valueX($value)").references "list" = false := by
    rw [Pattern.references, hsegments]
    rfl
  refine ⟨?_, hfree, ?_⟩
  · rw [Pattern.references, hsegments]
    rfl
  · intro bindings
    obtain ⟨⟨forced, hlog, hcount, -, hnot⟩, -⟩ :=
      render_on_demand "$values.$valueX($value)" bindings
    refine ⟨forced, ?_, ?_, hnot _ hfree, hlog⟩
    · rw [hcount "value" _ rfl, ← Pattern.tokens_parse, Pattern.tokens, hsegments]
      rfl
    · rw [hcount "val" _ rfl, ← Pattern.tokens_parse, Pattern.tokens, hsegments]
      rfl

end Taglit.Compiled
