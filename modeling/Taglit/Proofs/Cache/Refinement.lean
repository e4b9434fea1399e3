import Taglit.Proofs.Cache.Ledger
import Taglit.Proofs.Cache.Sound
import Mathlib.Data.List.Forall2
import Mathlib.Data.List.Nodup
import Mathlib.Data.List.Range

/-!
# The cache keeps the latest insertion of every living literal

`Represents` ties a session with a cache to a ledger, which knows literals by identity alone and
forgets nothing.  `represents_step` says that a step of the session is the step of the ledger,
wherever literals are kept, and whole runs follow by induction.  `session_refines_ledger` puts
together what this means for lookups, callbacks and the table.
-/

namespace Taglit.Cache

/-! ## Sessions and ledgers -/

/-- A session does what a ledger says.  Its cache can be trusted, its handles hold the same
literals, as many literals and values have been made by the same calls, and what is kept for a
living literal is the value of the latest insertion.  Insertions were made for literals that have
been made, and each one has made a value of its own. -/
structure Represents (session : Session) (ledger : Ledger) : Prop where
  sound : session.Sound
  held : ∀ handle, (session.literal? handle).map Literal.identity = ledger.held handle
  created : session.created = ledger.created
  stored : session.stored = ledger.insertions.length
  calls : session.calls = ledger.calls
  latest : ∀ l ∈ session.held, session.get? l = ledger.latest l.serial
  known : ∀ p ∈ ledger.insertions, p.1 < ledger.created
  numbered : ledger.insertions.map (·.2.serial) = List.range ledger.insertions.length

/-- The outcome and what follows are the same in a session and in a ledger. -/
def Agrees (x : Outcome × Session) (y : Outcome × Ledger) : Prop :=
  x.1 = y.1 ∧ Represents x.2 y.2

/-- At its start, a session does what the empty ledger says. -/
theorem represents_empty : Represents {} {} where
  sound := Session.sound_empty
  held handle := by simp [Session.literal?]
  created := rfl
  stored := rfl
  calls := rfl
  latest l hl := by simp [Session.held] at hl
  known p hp := by simp at hp
  numbered := rfl

namespace Represents

variable {session : Session} {ledger : Ledger}

/-- Letting go of literals, and holding them by other handles. -/
theorem reassign (h : Represents session ledger) {handles : List (String × Literal)}
    (hsubset : handles.map (·.2) ⊆ session.held) {handle : String} {literal : Option Literal}
    (hliteral : ∀ other, ({ session with handles } : Session).literal? other =
      if other = handle then literal else session.literal? other) :
    Represents { session with handles } (ledger.assign handle (literal.map Literal.identity)) := by
  have hsound : ({ session with handles } : Session).Sound :=
    h.sound.mono hsubset (List.Subset.refl _) (Nat.le_refl _)
  refine ⟨hsound, fun other => ?_, h.created, h.stored, h.calls, fun l hl => ?_, h.known,
    h.numbered⟩
  · rw [hliteral, Ledger.held_assign]
    by_cases ho : other = handle
    · rw [if_pos ho, if_pos ho]
    · rw [if_neg ho, if_neg ho, h.held other]
  · exact (h.sound.get?_congr hsound rfl (hsubset hl) hl).trans (h.latest l (hsubset hl))

/-- Holding a living literal by one more handle. -/
theorem hold (h : Represents session ledger) {literal : Literal} (hl : literal ∈ session.held)
    (handle : String) :
    Represents (session.hold handle literal) (ledger.assign handle (some literal.identity)) := by
  refine h.reassign (fun l hmem => ?_)
    (fun other => Session.literal?_hold session handle other literal)
  rcases Session.mem_held_hold hmem with rfl | hmem
  · exact hl
  · exact hmem

/-- Letting go what a handle holds. -/
theorem release (h : Represents session ledger) (handle : String) :
    Represents (session.release handle) (ledger.assign handle none) :=
  h.reassign (Session.held_release_subset session handle)
    (fun other => Session.literal?_release session handle other)

/-- A new literal, at a place that is free. -/
theorem create (h : Represents session ledger) (handle : String) (segments : List String)
    {place : Nat} (hplace : place ∉ session.usedPlaces) :
    Represents ({ session with created := session.created + 1 }.hold handle
        ⟨session.created, place, segments⟩)
      ({ ledger with created := ledger.created + 1 }.assign handle
        (some ⟨ledger.created, segments⟩)) := by
  have hsound := h.sound.create handle segments hplace
  refine ⟨hsound, fun other => ?_, congrArg (· + 1) h.created, h.stored, h.calls, fun l hl => ?_,
    fun p hp => Nat.lt_succ_of_lt (h.known p hp), h.numbered⟩
  · rw [Session.literal?_hold, Ledger.held_assign]
    by_cases ho : other = handle
    · rw [if_pos ho, if_pos ho, Option.map_some, Literal.identity, h.created]
    · rw [if_neg ho, if_neg ho]
      exact h.held other
  · rcases Session.mem_held_hold hl with rfl | hold
    · -- nothing was ever inserted for the new literal, and no entry is at its place
      have hnone : session.table.find? place = none :=
        Table.find?_eq_none fun hmem => hplace (List.mem_append_right _ hmem)
      have hlatest : ledger.latest session.created = none :=
        Ledger.latest_eq_none fun p hp => by
          have := h.known p hp
          rw [h.created]
          omega
      refine (hsound.get?_eq hl).trans ?_
      exact (congrArg (Option.map Entry.value) hnone).trans hlatest.symm
    · exact (h.sound.get?_congr hsound rfl hold hl).trans (h.latest l hold)

/-- Pruning, of which a ledger knows nothing. -/
theorem prune (h : Represents session ledger) : Represents session.prune ledger :=
  ⟨h.sound.prune, h.held, h.created, h.stored, h.calls,
    fun l hl => (h.sound.get?_prune hl).trans (h.latest l hl), h.known, h.numbered⟩

/-- Inserting a value for a living literal, which has the same number in the session and in the
ledger. -/
theorem insert (h : Represents session ledger) {literal : Literal} (hl : literal ∈ session.held)
    (text : String) :
    (session.insert literal text).1 = (ledger.insert literal.identity text).1 ∧
      Represents (session.insert literal text).2 (ledger.insert literal.identity text).2 := by
  have hvalue : (session.insert literal text).1 = (ledger.insert literal.identity text).1 :=
    congrArg (Stored.mk · text) h.stored
  refine ⟨hvalue, h.sound.insert hl text, h.held, h.created, ?_, h.calls, fun l hmem => ?_,
    fun p hp => ?_, ?_⟩
  · rw [Ledger.insert, List.length_append, ← h.stored]
    rfl
  · -- the new value counts for its own literal, and the old ones for all others
    rw [h.sound.get?_insert hl hmem text]
    by_cases hserial : l.serial = literal.serial
    · rw [if_pos hserial, hserial]
      exact (congrArg some hvalue).trans (ledger.latest_insert_self literal.identity text).symm
    · rw [if_neg hserial, h.latest l hmem]
      exact (ledger.latest_insert_of_ne text (Ne.symm hserial)).symm
  · rcases List.mem_append.mp hp with hp | hp
    · exact h.known p hp
    · obtain rfl : p = _ := List.mem_singleton.mp hp
      exact h.created ▸ h.sound.made literal hl
  · simp only [Ledger.insert, List.map_append, h.numbered, List.length_append, List.map_cons,
      List.map_nil, List.length_cons, List.length_nil, Nat.zero_add, List.range_succ]

/-- Counting calls concerns nothing else. -/
theorem withCalls (h : Represents session ledger) (calls : Calls) :
    Represents { session with calls } { ledger with calls } :=
  ⟨⟨h.sound.made, h.sound.same, h.sound.apart, h.sound.known, h.sound.own⟩, h.held, h.created,
    h.stored, rfl, h.latest, h.known, h.numbered⟩

/-- A callback is run by the session iff it is run by the ledger. -/
theorem answer (h : Represents session ledger) {literal : Literal} (hl : literal ∈ session.held)
    {act : List String → StateM Calls (Except Refusal String)}
    {callback : List String → Except Refusal String} {asks : List String → List ParseRequest}
    (hact : Session.Acts act callback asks) :
    Agrees (session.answer literal (counted act))
      (ledger.answer literal.identity callback asks) := by
  -- both look the literal up first, and find the same
  have hlatest := h.latest literal hl
  have hcalls : session.callsAfter asks literal =
      ⟨ledger.calls.callbacks + 1, ledger.calls.requests ++ asks literal.segments⟩ := by
    rw [Session.callsAfter, h.calls]
  cases hget : session.get? literal with
  | some value =>
      rw [session.answer_of_hit act hget,
        ledger.answer_of_hit callback asks (hlatest.symm.trans hget)]
      exact ⟨rfl, h⟩
  | none =>
      rw [session.answer_of_miss hact hget,
        ledger.answer_of_miss callback asks (hlatest.symm.trans hget), hcalls,
        literal.segments_identity]
      cases callback literal.segments with
      | error refusal => exact ⟨rfl, h.withCalls _⟩
      | ok text =>
          obtain ⟨hvalue, hinsert⟩ := h.insert hl text
          exact ⟨congrArg Outcome.value hvalue, hinsert.withCalls _⟩

/-- A handle holds the same literal in the session and in the ledger, or nothing in both. -/
theorem withLiteral (h : Represents session ledger) {handle : String}
    {act : Literal → Outcome × Session} {step : Identity → Outcome × Ledger}
    (hact : ∀ literal, session.literal? handle = some literal →
      Agrees (act literal) (step literal.identity)) :
    Agrees (session.withLiteral handle act) (ledger.withLiteral handle step) := by
  have hheld := h.held handle
  rw [Session.withLiteral, Ledger.withLiteral, ← hheld]
  cases hliteral : session.literal? handle with
  | none => exact ⟨rfl, h⟩
  | some literal => exact hact literal hliteral

end Represents

/-- A step of a session is the step of the ledger, wherever a new literal is kept. -/
theorem represents_step (allocator : Allocator) {session : Session} {ledger : Ledger}
    (h : Represents session ledger) (step : Step) :
    Agrees (session.step allocator step) (ledger.step step) := by
  cases step with
  | create handle segments =>
      exact ⟨rfl, h.create handle segments (allocator.choose_free session)⟩
  | clone handle copy =>
      exact h.withLiteral fun literal hliteral =>
        ⟨rfl, h.hold (Session.mem_held_of_literal? hliteral) copy⟩
  | drop handle => exact ⟨rfl, h.release handle⟩
  | prune => exact ⟨rfl, h.prune⟩
  | get handle =>
      refine h.withLiteral fun literal hliteral => ⟨?_, h⟩
      exact congrArg (Option.elim · Outcome.nothing Outcome.value)
        (h.latest literal (Session.mem_held_of_literal? hliteral))
  | insert handle text =>
      refine h.withLiteral fun literal hliteral => ?_
      obtain ⟨hvalue, hinsert⟩ := h.insert (Session.mem_held_of_literal? hliteral) text
      exact ⟨congrArg Outcome.value hvalue, hinsert⟩
  | getOrInsert handle callback =>
      exact h.withLiteral fun literal hliteral =>
        h.answer (Session.mem_held_of_literal? hliteral) (Session.acts_pure callback)
  | compile handle configure =>
      exact h.withLiteral fun literal hliteral =>
        h.answer (Session.mem_held_of_literal? hliteral) (Session.acts_compileCallback configure)

/-- A run of a session is the run of the ledger. -/
theorem represents_run (allocator : Allocator) {session : Session} {ledger : Ledger}
    (h : Represents session ledger) (steps : List Step) :
    List.Forall₂ Agrees (session.run allocator steps) (ledger.run steps) := by
  induction steps generalizing session ledger with
  | nil => exact .nil
  | cons step steps ih =>
      have hstep := represents_step allocator h step
      exact .cons hstep (ih hstep.2)

/-- The session after steps. -/
def Session.after (allocator : Allocator) (session : Session) (steps : List Step) : Session :=
  steps.foldl (fun s step => (s.step allocator step).2) session

/-- After any steps, the session does what the ledger says. -/
theorem represents_after (allocator : Allocator) {session : Session} {ledger : Ledger}
    (h : Represents session ledger) (steps : List Step) :
    Represents (session.after allocator steps) (ledger.after steps) := by
  induction steps generalizing session ledger with
  | nil => exact h
  | cons step steps ih => exact ih (represents_step allocator h step).2

/-- Runs that agree step by step have the same outcomes. -/
theorem outcomes_eq_of_agrees {xs : List (Outcome × Session)} {ys : List (Outcome × Ledger)}
    (h : List.Forall₂ Agrees xs ys) : xs.map (·.1) = ys.map (·.1) := by
  induction h with
  | nil => rfl
  | cons hagrees _ ih => rw [List.map_cons, List.map_cons, hagrees.1, ih]

/-- What is kept for a living literal is changed by no step that inserts for another one, or for
none. -/
theorem Represents.get?_step_of_ne (allocator : Allocator) {session : Session} {ledger : Ledger}
    (h : Represents session ledger) {step : Step} {literal : Literal} (hl : literal ∈ session.held)
    (hnext : literal ∈ (session.step allocator step).2.held)
    (hother : ∀ handle other, step.inserts? = some handle → session.literal? handle = some other →
      other.serial ≠ literal.serial) :
    (session.step allocator step).2.get? literal = session.get? literal := by
  have hstep := (represents_step allocator h step).2
  -- what is kept is the latest insertion before and after, and the ledger's step is for another one
  rw [hstep.latest literal hnext, h.latest literal hl]
  refine ledger.latest_step_of_ne step fun handle identity hinserts hheld => ?_
  rw [← h.held handle, Option.map_eq_some_iff] at hheld
  obtain ⟨other, hliteral, rfl⟩ := hheld
  exact hother handle other hinserts hliteral

/-- A value that was inserted for one literal was inserted for no other. -/
theorem Represents.serial_eq {session : Session} {ledger : Ledger} (h : Represents session ledger)
    {m n : Nat} {value : Stored} (hm : (m, value) ∈ ledger.insertions)
    (hn : (n, value) ∈ ledger.insertions) : m = n := by
  have hnodup : (ledger.insertions.map (·.2.serial)).Nodup := h.numbered ▸ List.nodup_range
  exact congrArg Prod.fst (List.inj_on_of_nodup_map hnodup hm hn rfl)

/-! ## Whole runs -/

/-- The callback that a step may run, and the handle for whose literal. -/
def Step.callback? : Step → Option (String × (List String → Except Refusal String))
  | .getOrInsert handle callback => some (handle, callback)
  | .compile handle configure => some (handle, compiled configure)
  | _ => none

/-- Compiling what a handle holds answers with what is kept, or else compiles the literal. -/
theorem Session.step_compile (allocator : Allocator) {session : Session} {handle : String}
    {literal : Literal} (hliteral : session.literal? handle = some literal)
    (configure : Settings Id → Settings Id) :
    session.step allocator (.compile handle configure) =
      session.answer literal (counted (compileCallback configure)) := by
  rw [Session.step, Session.withLiteral, hliteral]

/-- Steps with a callback answer with what is kept, or else with the callback. -/
theorem Session.step_eq_answer (allocator : Allocator) {session : Session} {step : Step}
    {handle : String} {callback : List String → Except Refusal String} {literal : Literal}
    (hstep : step.callback? = some (handle, callback))
    (hliteral : session.literal? handle = some literal) :
    ∃ act asks, Acts act callback asks ∧
      session.step allocator step = session.answer literal (counted act) := by
  cases step with
  | getOrInsert handle callback =>
      cases hstep
      exact ⟨_, _, acts_pure callback, by rw [Session.step, Session.withLiteral, hliteral]⟩
  | compile handle configure =>
      cases hstep
      exact ⟨_, _, acts_compileCallback configure, step_compile allocator hliteral configure⟩
  | _ => cases hstep

/-- If nothing is kept, compiling with a parser comes to compiling the tree that the parser gives;
if it gives none, its reason is that of the refusal. -/
theorem Session.answer_compile (session : Session) {literal : Literal}
    (h : session.get? literal = none) (configure : Settings Id → Settings Id)
    {parse : TemplateParser Id}
    (htree : (configure (.ofSegments literal.segments)).tree? = none)
    (hparser : (configure (.ofSegments literal.segments)).parser? = some parse) :
    (session.answer literal (counted (compileCallback configure))).1 =
      match (parse (configure (.ofSegments literal.segments)).request :
        Except String Markup.Node) with
      | .error reason =>
        .refused (.compile (.unparsed (configure (.ofSegments literal.segments)).filename reason))
      | .ok tree => (session.answer literal
          (counted (compileCallback fun settings => (configure settings).withTree tree))).1 := by
  rw [session.answer_of_miss (acts_compileCallback configure) h,
    compiled_of_parsing configure literal.segments htree hparser]
  cases (parse (configure (.ofSegments literal.segments)).request : Except String Markup.Node) with
  | error reason => rfl
  | ok tree =>
      simp only [session.answer_of_miss (acts_compileCallback _) h]
      -- the two differ in the calls alone
      cases compiled (fun settings => (configure settings).withTree tree) literal.segments <;> rfl

/-- Wherever literals are kept, a session with a cache is a session with a ledger: every outcome of
every run is that of the ledger.  After any steps:

* what is kept for a living literal is the value of the latest insertion for it, if there was one,
  and never a value that was inserted for another literal;
* a step with a callback gives what is kept and does nothing else, or runs the callback once, if
  nothing is kept; a callback that fails leaves the table as it is;
* when the callback that compiles is run, the parser is asked once if there is a parser and no tree,
  and nothing otherwise; if it is asked, the step compiles the tree that it gives, or fails with its
  reason;
* a step that inserts for another literal, or for none, changes nothing for a living literal. -/
theorem session_refines_ledger (allocator : Allocator) (steps : List Step) :
    (({} : Session).run allocator steps).map (·.1) = (({} : Ledger).run steps).map (·.1) ∧
    let session := ({} : Session).after allocator steps
    let ledger := ({} : Ledger).after steps
    (∀ literal ∈ session.held, session.get? literal = ledger.latest literal.serial) ∧
    (∀ literal ∈ session.held, ∀ value serial, session.get? literal = some value →
      (serial, value) ∈ ledger.insertions → serial = literal.serial) ∧
    (∀ step handle callback literal, Step.callback? step = some (handle, callback) →
      session.literal? handle = some literal →
      (∀ value, session.get? literal = some value →
        session.step allocator step = (.value value, session)) ∧
      (session.get? literal = none →
        (session.step allocator step).2.calls.callbacks = session.calls.callbacks + 1) ∧
      (∀ refusal, callback literal.segments = .error refusal →
        (session.step allocator step).2.table = session.table)) ∧
    (∀ handle configure literal, session.literal? handle = some literal →
      session.get? literal = none →
      let settings : Settings Id := configure (.ofSegments literal.segments)
      let result := session.step allocator (.compile handle configure)
      result.2.calls.requests = session.calls.requests ++ settings.asked ∧
      ∀ parse, settings.tree? = none → settings.parser? = some parse →
        result.1 = match (parse settings.request : Except String Markup.Node) with
          | .error reason => .refused (.compile (.unparsed settings.filename reason))
          | .ok tree => (session.step allocator
              (.compile handle fun settings => (configure settings).withTree tree)).1) ∧
    ∀ step, ∀ literal ∈ session.held, literal ∈ (session.step allocator step).2.held →
      (∀ handle other, Step.inserts? step = some handle → session.literal? handle = some other →
        other.serial ≠ literal.serial) →
      (session.step allocator step).2.get? literal = session.get? literal := by
  have hafter := represents_after allocator represents_empty steps
  -- the first two parts are what `Represents` says, the others look at one step more
  refine ⟨outcomes_eq_of_agrees (represents_run allocator represents_empty steps), hafter.latest,
    ?_, ?_, ?_, ?_⟩
  · intro literal hl value serial hget hmem
    rw [hafter.latest literal hl] at hget
    exact hafter.serial_eq hmem (Ledger.mem_insertions_of_latest hget)
  · intro step handle callback literal hstep hliteral
    obtain ⟨act, asks, hact, hanswer⟩ := Session.step_eq_answer allocator hstep hliteral
    rw [hanswer]
    refine ⟨fun value hget => Session.answer_of_hit _ act hget, fun hget => ?_,
      fun refusal herror => Session.table_answer_of_error _ hact herror⟩
    rw [Session.calls_answer_of_miss _ hact hget]
    rfl
  · intro handle configure literal hliteral hget
    simp only [Session.step_compile allocator hliteral]
    refine ⟨?_, fun parse htree hparser => Session.answer_compile _ hget configure htree hparser⟩
    exact congrArg Calls.requests
      (Session.calls_answer_of_miss _ (Session.acts_compileCallback configure) hget)
  · intro step literal hl hnext hother
    exact hafter.get?_step_of_ne allocator hl hnext hother

/-- The place of a literal that is gone is used again, and what was kept there is not found. -/
example : (({} : Session).run .stacked [.create "a" ["x"], .insert "a" "v", .drop "a", .prune,
      .create "b" ["x"], .get "b"]).map (fun r => (r.1, r.2.held.map (·.place))) =
    [(.nothing, [1]), (.value ⟨0, "v"⟩, [1]), (.nothing, []), (.nothing, []), (.nothing, [1]),
      (.nothing, [1])] := by
  decide

end Taglit.Cache
