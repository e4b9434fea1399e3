import Taglit.Proofs.Cache.History
import Taglit.Proofs.Cache.Refinement
import Mathlib.Data.Set.Card

/-!
# The cache forgets exactly the literals that are gone

The table of a cache has one entry for each literal that is retained.  `Effect` says what a step can
do to the table: prune it, insert into it, or leave it alone.  From this `Keeps` follows step by
step: the keys of the table are the retained literals, each of them once.

`size_eq_ncard_retained` puts together what this means for the size of the cache after any run.
-/

namespace Taglit.Cache

/-- The identities of the literals that a table has entries for. -/
def Table.keys {α : Type} (table : Table α) : List Nat :=
  table.entries.map (·.2.key)

/-- There is one key for each entry. -/
theorem Table.length_keys {α : Type} (table : Table α) : table.keys.length = table.size :=
  List.length_map ..

/-! ## What a step does to the table -/

/-- What a step of a session, and of the ledger that it represents, does to the table and to the
insertions: it leaves them alone, prunes the table, or inserts a value for a living literal. -/
inductive Effect (session : Session) (ledger : Ledger) (step : Step) (next : Session)
    (after : Ledger) : Prop where
  | untouched : step ≠ .prune → after.insertions = ledger.insertions → next.table = session.table →
      Effect session ledger step next after
  | pruned : step = .prune → next.handles = session.handles →
      next.table = session.table.prune session.isLive →
      Effect session ledger step next after
  | inserted (literal : Literal) (value : Stored) : literal ∈ session.held →
      after.insertions = ledger.insertions ++ [(literal.serial, value)] →
      next.handles = session.handles →
      next.table = session.table.insert session.isLive literal value →
      Effect session ledger step next after

namespace Represents

variable {session : Session} {ledger : Ledger} {step : Step}

/-- An insertion is the last one of the ledger, with the value of the session. -/
theorem insertions_insert (h : Represents session ledger) {literal : Literal}
    (hl : literal ∈ session.held) (text : String) :
    (ledger.insert literal.identity text).2.insertions =
      ledger.insertions ++ [(literal.serial, (session.insert literal text).1)] := by
  rw [(h.insert hl text).1]
  rfl

/-- Answering leaves the table alone, or inserts what the callback gives. -/
theorem effect_answer (h : Represents session ledger) (hstep : step ≠ .prune) {literal : Literal}
    (hl : literal ∈ session.held) {act : List String → StateM Calls (Except Refusal String)}
    {callback : List String → Except Refusal String} {asks : List String → List ParseRequest}
    (hact : Session.Acts act callback asks) :
    Effect session ledger step (session.answer literal (counted act)).2
      (ledger.answer literal.identity callback asks).2 := by
  have hlatest := h.latest literal hl
  cases hget : session.get? literal with
  | some value =>
      rw [session.answer_of_hit act hget,
        ledger.answer_of_hit callback asks (hlatest.symm.trans hget)]
      exact .untouched hstep rfl rfl
  | none =>
      rw [session.answer_of_miss hact hget,
        ledger.answer_of_miss callback asks (hlatest.symm.trans hget), literal.segments_identity]
      cases callback literal.segments with
      | error refusal => exact .untouched hstep rfl rfl
      | ok text => exact .inserted literal _ hl (h.insertions_insert hl text) rfl rfl

/-- Something is done with a living literal, or nothing at all. -/
theorem effect_withLiteral (h : Represents session ledger) (hstep : step ≠ .prune) {handle : String}
    {act : Literal → Outcome × Session} {act' : Identity → Outcome × Ledger}
    (hact : ∀ literal ∈ session.held,
      Effect session ledger step (act literal).2 (act' literal.identity).2) :
    Effect session ledger step (session.withLiteral handle act).2
      (ledger.withLiteral handle act').2 := by
  rw [Session.withLiteral, Ledger.withLiteral, ← h.held handle]
  cases hliteral : session.literal? handle with
  | none => exact .untouched hstep rfl rfl
  | some literal => exact hact literal (Session.mem_held_of_literal? hliteral)

/-- Every step has one of these effects. -/
theorem effect_step (allocator : Allocator) (h : Represents session ledger) (step : Step) :
    Effect session ledger step (session.step allocator step).2 (ledger.step step).2 := by
  cases step with
  | create handle segments => exact .untouched nofun rfl rfl
  | clone handle copy =>
      refine h.effect_withLiteral ?_ fun literal _ => .untouched ?_ rfl rfl
      all_goals exact nofun
  | drop handle => exact .untouched nofun rfl rfl
  | prune => exact .pruned rfl rfl rfl
  | get handle =>
      refine h.effect_withLiteral ?_ fun literal _ => .untouched ?_ rfl rfl
      all_goals exact nofun
  | insert handle text =>
      refine h.effect_withLiteral ?_ fun literal hl => ?_
      · exact nofun
      · exact .inserted literal _ hl (h.insertions_insert hl text) rfl rfl
  | getOrInsert handle callback =>
      refine h.effect_withLiteral ?_ fun literal hl =>
        h.effect_answer ?_ hl (Session.acts_pure callback)
      all_goals exact nofun
  | compile handle configure =>
      refine h.effect_withLiteral ?_ fun literal hl =>
        h.effect_answer ?_ hl (Session.acts_compileCallback configure)
      all_goals exact nofun

end Represents

/-! ## Entries after a step -/

/-- Pruning leaves the entries of living literals. -/
theorem Table.mem_entries_prune {α : Type} {table : Table α} {live : Nat → Bool}
    {e : Nat × Entry α} :
    e ∈ (table.prune live).entries ↔ e ∈ table.entries ∧ live e.2.key = true :=
  List.mem_filter

/-- Inserting leaves the entries of living literals at other places, and adds the new one. -/
theorem Table.mem_entries_insert {α : Type} {table : Table α} {live : Nat → Bool}
    {literal : Literal} {value : α} {e : Nat × Entry α} :
    e ∈ (table.insert live literal value).entries ↔
      (e ∈ table.entries ∧ live e.2.key = true) ∧ e.1 ≠ literal.place ∨
        e = (literal.place, ⟨literal.serial, value⟩) := by
  rw [Table.insert, Table.put, List.mem_append, List.mem_singleton, List.mem_filter,
    Table.mem_entries_prune, bne_iff_ne]

namespace Effect

variable {session next : Session} {ledger : Ledger} {step : Step}

/-- A step that does not sweep leaves the table alone. -/
theorem table_eq (h : Effect session ledger step next (ledger.step step).2)
    (hsweeps : ¬ ledger.Sweeps step) : next.table = session.table := by
  cases h with
  | untouched _ _ htable => exact htable
  | pruned hstep => exact absurd (.inl hstep) hsweeps
  | inserted literal value _ hinsertions =>
      refine absurd (.inr ?_) hsweeps
      rw [hinsertions]
      exact fun h => by simp at h

/-- After a step that sweeps, all entries are those of living literals. -/
theorem isLive_of_mem (h : Effect session ledger step next (ledger.step step).2)
    (hsweeps : ledger.Sweeps step) {e : Nat × Entry Stored} (he : e ∈ next.table.entries) :
    next.isLive e.2.key = true := by
  cases h with
  | untouched hstep hinsertions =>
      rcases hsweeps with hprune | hne
      · exact absurd hprune hstep
      · exact absurd hinsertions hne
  | pruned _ hhandles htable =>
      rw [htable, Table.mem_entries_prune] at he
      rw [Session.isLive, hhandles]
      exact he.2
  | inserted literal value hl _ hhandles htable =>
      rw [htable, Table.mem_entries_insert] at he
      rw [Session.isLive, hhandles]
      rcases he with ⟨⟨-, hlive⟩, -⟩ | rfl
      · exact hlive
      · exact Session.isLive_iff.mpr ⟨literal, hl, rfl⟩

/-- An entry stays as long as its literal lives, unless it gives way to a newer one for the same
literal. -/
theorem mem_or_replaced (h : Effect session ledger step next (ledger.step step).2)
    (hs : session.Sound) {e : Nat × Entry Stored} (he : e ∈ session.table.entries)
    (hlive : next.isLive e.2.key = true) :
    e ∈ next.table.entries ∨ ∃ value, (e.1, ⟨e.2.key, value⟩) ∈ next.table.entries ∧
      (ledger.step step).2.insertions = ledger.insertions ++ [(e.2.key, value)] := by
  cases h with
  | untouched _ _ htable => exact .inl (htable ▸ he)
  | pruned _ hhandles htable =>
      rw [Session.isLive, hhandles] at hlive
      rw [htable, Table.mem_entries_prune]
      exact .inl ⟨he, hlive⟩
  | inserted literal value hl hinsertions hhandles htable =>
      rw [Session.isLive, hhandles] at hlive
      rw [htable]
      by_cases hplace : e.1 = literal.place
      · -- the entry at the place of a living literal is its own
        have hkey : literal.serial = e.2.key := (hs.own e he literal hl).mp hplace.symm
        refine .inr ⟨value, ?_, hkey ▸ hinsertions⟩
        rw [Table.mem_entries_insert, hplace, hkey]
        exact .inr rfl
      · exact .inl (Table.mem_entries_insert.mpr (.inl ⟨⟨he, hlive⟩, hplace⟩))

/-- No literal gets a second entry. -/
theorem nodup_keys (h : Effect session ledger step next (ledger.step step).2) (hs : session.Sound)
    (hnodup : session.table.keys.Nodup) : next.table.keys.Nodup := by
  cases h with
  | untouched _ _ htable => exact htable ▸ hnodup
  | pruned _ _ htable =>
      rw [htable]
      exact hnodup.sublist (List.filter_sublist.map _)
  | inserted literal value hl _ _ htable =>
      rw [htable, Table.keys, Table.insert, Table.put, List.map_append]
      have hkept :
          ((session.table.prune session.isLive).entries.filter (·.1 != literal.place)).Sublist
            session.table.entries := List.filter_sublist.trans List.filter_sublist
      refine List.Nodup.append (hnodup.sublist (hkept.map _)) (List.nodup_singleton _) ?_
      -- an entry for the literal would be at its place
      intro key hkey hserial
      obtain rfl : key = literal.serial := List.mem_singleton.mp hserial
      obtain ⟨e, he, hekey⟩ := List.mem_map.mp hkey
      have hplace : literal.place = e.1 := (hs.own e (hkept.subset he) literal hl).mpr hekey.symm
      have hne : e.1 ≠ literal.place := by simpa using (List.mem_filter.mp he).2
      exact hne hplace.symm

end Effect

/-! ## Handles -/

namespace Session

variable {session : Session}

/-- Every handle holds what it is listed with: no handle is listed before it that has the same
name. -/
def Unshadowed (session : Session) : Prop :=
  ∀ entry ∈ session.handles, session.literal? entry.1 = some entry.2

/-- Letting go what a handle holds shadows no other handle. -/
theorem Unshadowed.release (h : session.Unshadowed) (handle : String) :
    (session.release handle).Unshadowed := by
  intro entry hentry
  obtain ⟨hmem, hne⟩ := List.mem_filter.mp hentry
  rw [literal?_release, if_neg (by simpa using hne)]
  exact h entry hmem

/-- A handle that is made to hold a literal holds nothing else. -/
theorem Unshadowed.hold (h : session.Unshadowed) (handle : String) (literal : Literal) :
    (session.hold handle literal).Unshadowed := by
  intro entry hentry
  rw [literal?_hold]
  rcases List.mem_append.mp hentry with hentry | hentry
  · obtain ⟨hmem, hne⟩ := List.mem_filter.mp hentry
    rw [if_neg (by simpa using hne)]
    exact h entry hmem
  · obtain rfl : entry = (handle, literal) := List.mem_singleton.mp hentry
    rw [if_pos rfl]

/-- What is done with the literal of a handle decides, if it holds one. -/
theorem Unshadowed.withLiteral (h : session.Unshadowed) {handle : String}
    {act : Literal → Outcome × Session} (hact : ∀ literal, (act literal).2.Unshadowed) :
    (session.withLiteral handle act).2.Unshadowed := by
  unfold Session.withLiteral
  split
  · exact h
  · exact hact _

/-- Answering moves no handle. -/
theorem Unshadowed.answer (h : session.Unshadowed) (literal : Literal)
    {act : List String → StateM Calls (Except Refusal String)}
    {callback : List String → Except Refusal String} {asks : List String → List ParseRequest}
    (hact : Acts act callback asks) : (session.answer literal (counted act)).2.Unshadowed := by
  cases hget : session.get? literal with
  | some value =>
      rw [session.answer_of_hit act hget]
      exact h
  | none =>
      rw [session.answer_of_miss hact hget]
      cases callback literal.segments <;> exact h

/-- No step shadows a handle. -/
theorem Unshadowed.step (h : session.Unshadowed) (allocator : Allocator) (step : Step) :
    (session.step allocator step).2.Unshadowed := by
  cases step with
  | create handle segments => exact Unshadowed.hold h handle _
  | clone handle copy => exact h.withLiteral fun literal => h.hold copy literal
  | drop handle => exact h.release handle
  | prune => exact h
  | get handle => exact h.withLiteral fun _ => h
  | insert handle text => exact h.withLiteral fun _ => h
  | getOrInsert handle callback =>
      exact h.withLiteral fun literal => h.answer literal (acts_pure callback)
  | compile handle configure =>
      exact h.withLiteral fun literal => h.answer literal (acts_compileCallback configure)

end Session

namespace Represents

variable {session : Session} {ledger : Ledger}

/-- The same literals live in the session and in the ledger. -/
theorem lives_iff (h : Represents session ledger) (hhandles : session.Unshadowed) (serial : Nat) :
    ledger.Lives serial ↔ session.isLive serial = true := by
  rw [Session.isLive_iff]
  constructor
  · rintro ⟨handle, identity, hheld, rfl⟩
    rw [← h.held handle, Option.map_eq_some_iff] at hheld
    obtain ⟨literal, hliteral, rfl⟩ := hheld
    exact ⟨literal, Session.mem_held_of_literal? hliteral, rfl⟩
  · rintro ⟨literal, hl, rfl⟩
    obtain ⟨entry, hentry, rfl⟩ := List.mem_map.mp hl
    refine ⟨entry.1, entry.2.identity, ?_, rfl⟩
    rw [← h.held, hhandles entry hentry, Option.map_some]

/-- A living literal has an entry iff a value was inserted for it. -/
theorem mem_keys_iff (h : Represents session ledger) {serial : Nat}
    (hlive : session.isLive serial = true) :
    serial ∈ session.table.keys ↔ ledger.HasInsertion serial := by
  obtain ⟨literal, hl, rfl⟩ := Session.isLive_iff.mp hlive
  rw [Ledger.hasInsertion_iff, ← h.latest literal hl, h.sound.get?_eq hl]
  constructor
  · intro hkey
    obtain ⟨e, he, hserial⟩ := List.mem_map.mp hkey
    have hplace : literal.place = e.1 := (h.sound.own e he literal hl).mpr hserial.symm
    cases hfind : session.table.find? literal.place with
    | some entry => exact ⟨entry.value, rfl⟩
    | none =>
        -- but the entry `e` is at that place
        rw [Table.find?, Option.map_eq_none_iff, List.find?_eq_none] at hfind
        exact absurd (beq_iff_eq.mpr hplace.symm) (hfind e he)
  · rintro ⟨value, hvalue⟩
    obtain ⟨entry, hfind, -⟩ := Option.map_eq_some_iff.mp hvalue
    have hmem := Table.mem_of_find? hfind
    exact List.mem_map.mpr ⟨_, hmem, ((h.sound.own _ hmem literal hl).mp rfl).symm⟩

end Represents

/-! ## Whole runs -/

/-- A run with one more step at its end. -/
theorem Session.after_concat (allocator : Allocator) (session : Session) (steps : List Step)
    (step : Step) :
    session.after allocator (steps ++ [step]) =
      ((session.after allocator steps).step allocator step).2 := by
  rw [after, List.foldl_append]
  rfl

/-- The table of a session has one entry for each literal that is retained after the steps.  The
session does what the ledger says, and its handles hold what they are listed with. -/
structure Keeps (steps : List Step) (session : Session) : Prop where
  represents : Represents session (({} : Ledger).after steps)
  unshadowed : session.Unshadowed
  nodup : session.table.keys.Nodup
  mem_keys_iff : ∀ serial, serial ∈ session.table.keys ↔ Retained steps serial

/-- Nothing is kept before the first step, and nothing retained. -/
theorem keeps_nil : Keeps [] {} where
  represents := represents_empty
  unshadowed := List.forall_mem_nil _
  nodup := List.nodup_nil
  mem_keys_iff serial := iff_of_false List.not_mem_nil (not_retained_nil serial)

/-- One more step keeps exactly what is retained after it. -/
theorem Keeps.step {steps : List Step} {session : Session} (h : Keeps steps session)
    (allocator : Allocator) (step : Step) :
    Keeps (steps ++ [step]) (session.step allocator step).2 := by
  have heffect := h.represents.effect_step allocator step
  have hrepresents := (represents_step allocator h.represents step).2
  have hunshadowed := h.unshadowed.step allocator step
  refine ⟨?_, hunshadowed, heffect.nodup_keys h.represents.sound h.nodup, fun serial => ?_⟩
  · rw [Ledger.after_concat]
    exact hrepresents
  · by_cases hsweeps : (({} : Ledger).after steps).Sweeps step
    · -- only living literals are left, and these have an entry iff they have an insertion
      rw [retained_concat_of_sweeps hsweeps, hrepresents.lives_iff hunshadowed]
      constructor
      · intro hkey
        obtain ⟨e, he, rfl⟩ := List.mem_map.mp hkey
        have hlive := heffect.isLive_of_mem hsweeps he
        exact ⟨(hrepresents.mem_keys_iff hlive).mp hkey, hlive⟩
      · rintro ⟨hinsertion, hlive⟩
        exact (hrepresents.mem_keys_iff hlive).mpr hinsertion
    · rw [retained_concat_of_not_sweeps hsweeps h.represents.known, heffect.table_eq hsweeps]
      exact h.mem_keys_iff serial

/-- After any run, the table has one entry for each literal that is retained. -/
theorem keeps_after (allocator : Allocator) (steps : List Step) :
    Keeps steps (({} : Session).after allocator steps) := by
  -- a run grows at its end, since what is retained depends on all of the past
  induction steps using List.reverseRecOn with
  | nil => exact keeps_nil
  | append_singleton steps step ih =>
      rw [Session.after_concat]
      exact ih.step allocator step

/-- The size of the table is the number of literals that are retained. -/
theorem Keeps.size_eq {steps : List Step} {session : Session} (h : Keeps steps session) :
    session.table.size = {serial | Retained steps serial}.ncard := by
  have hset : {serial | Retained steps serial} = ↑session.table.keys.toFinset := by
    ext serial
    rw [Finset.mem_coe, List.mem_toFinset, h.mem_keys_iff]
    rfl
  rw [hset, Set.ncard_coe_finset, List.toFinset_card_of_nodup h.nodup, Table.length_keys]

/-- A step with a callback leaves the table alone if something is kept, or if the callback fails. -/
theorem Session.table_step_of_callback (allocator : Allocator) {session : Session} {step : Step}
    {handle : String} {callback : List String → Except Refusal String} {literal : Literal}
    (hstep : step.callback? = some (handle, callback))
    (hliteral : session.literal? handle = some literal)
    (h : (session.get? literal).isSome ∨ ∃ refusal, callback literal.segments = .error refusal) :
    (session.step allocator step).2.table = session.table := by
  obtain ⟨act, asks, hact, hanswer⟩ := session.step_eq_answer allocator hstep hliteral
  rw [hanswer]
  rcases h with hhit | ⟨refusal, herror⟩
  · obtain ⟨value, hvalue⟩ := Option.isSome_iff_exists.mp hhit
    rw [session.answer_of_hit act hvalue]
  · exact session.table_answer_of_error hact herror

/-- Asking what is kept leaves the table alone. -/
theorem Session.table_get (allocator : Allocator) (session : Session) (handle : String) :
    (session.step allocator (.get handle)).2.table = session.table := by
  rw [step, withLiteral]
  split <;> rfl

/-- The cache forgets the literals that are gone, and no others.  After any steps, wherever literals
are kept, its size is the number of literals for which a value was inserted and which live or have
lost their last handle since the last sweep; each of them has one entry.  For one more step:

* if it prunes or inserts a value, then all entries are those of living literals;
* the entry of a literal that lives stays, unless the step inserts a newer value for that literal;
* if it neither prunes nor inserts a value, then the size stays the same; so it does when something
  is asked for, whether it is found or not, and when a callback is not run or fails. -/
theorem size_eq_ncard_retained (allocator : Allocator) (steps : List Step) :
    let session := ({} : Session).after allocator steps
    let ledger := ({} : Ledger).after steps
    session.table.size = {serial | Retained steps serial}.ncard ∧
    session.table.keys.Nodup ∧ (∀ serial, serial ∈ session.table.keys ↔ Retained steps serial) ∧
    ∀ step,
      let next := (session.step allocator step).2
      (ledger.Sweeps step → ∀ e ∈ next.table.entries, next.isLive e.2.key = true) ∧
      (∀ e ∈ session.table.entries, next.isLive e.2.key = true → e ∈ next.table.entries ∨
        ∃ value, (e.1, ⟨e.2.key, value⟩) ∈ next.table.entries ∧
          (ledger.step step).2.insertions = ledger.insertions ++ [(e.2.key, value)]) ∧
      (¬ ledger.Sweeps step → next.table.size = session.table.size) ∧
      (∀ handle, step = .get handle → next.table.size = session.table.size) ∧
      ∀ handle callback literal, step.callback? = some (handle, callback) →
        session.literal? handle = some literal →
        (session.get? literal).isSome ∨ (∃ refusal, callback literal.segments = .error refusal) →
        next.table.size = session.table.size := by
  intro session ledger
  have hkeeps : Keeps steps session := keeps_after allocator steps
  refine ⟨hkeeps.size_eq, hkeeps.nodup, hkeeps.mem_keys_iff, fun step => ?_⟩
  have heffect := hkeeps.represents.effect_step allocator step
  refine ⟨fun hsweeps e he => heffect.isLive_of_mem hsweeps he,
    fun e he hlive => heffect.mem_or_replaced hkeeps.represents.sound he hlive,
    fun hsweeps => congrArg Table.size (heffect.table_eq hsweeps), ?_, ?_⟩
  · rintro handle rfl
    exact congrArg Table.size (session.table_get allocator handle)
  · intro handle callback literal hstep hliteral h
    exact congrArg Table.size (session.table_step_of_callback allocator hstep hliteral h)

/-- A literal that is gone is counted until the next sweep. -/
example :
    (({} : Session).run .stacked [.create "a" ["x"], .create "b" ["x"], .insert "a" "v",
      .insert "b" "v", .insert "b" "w", .drop "a", .get "b", .prune]).map (·.2.table.size) =
    [0, 0, 1, 2, 2, 2, 2, 1] := by
  decide

end Taglit.Cache
