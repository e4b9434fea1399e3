import Taglit.Proofs.Cache.Asked

/-!
# When a table of places can be trusted

The table of a cache knows literals by place, and places are used again.  `Session.Sound` says why
it can still be trusted: living literals are apart, and an entry is at the place of a living literal
iff it was made for that literal.  Then what is kept for a living literal is whatever is at its
place.

Making, holding and releasing literals, pruning and inserting keep a session sound; a new literal
does so because its place is neither that of a living literal nor that of an entry.
-/

namespace Taglit.Cache

/-! ## Tables -/

/-- Entries with other keys are found as before, if all entries with one key are taken out. -/
theorem find?_filter_ne {κ β : Type} [DecidableEq κ] (entries : List (κ × β)) (key other : κ) :
    (entries.filter (·.1 != key)).find? (·.1 == other) =
      if other = key then none else entries.find? (·.1 == other) := by
  rw [List.find?_filter]
  by_cases h : other = key
  · subst h
    simp
  · rw [if_neg h]
    congr 1
    funext e
    by_cases he : e.1 = other
    · simp [he, h]
    · simp [he]

namespace Table

variable {α : Type}

/-- What is found at a place is an entry of the table. -/
theorem mem_of_find? {table : Table α} {place : Nat} {entry : Entry α}
    (h : table.find? place = some entry) : (place, entry) ∈ table.entries := by
  rw [find?, Option.map_eq_some_iff] at h
  obtain ⟨⟨key, found⟩, hfind, rfl⟩ := h
  have hkey : key = place := by simpa using List.find?_some hfind
  subst hkey
  exact List.mem_of_find?_eq_some hfind

/-- Nothing is found at a place without an entry. -/
theorem find?_eq_none {table : Table α} {place : Nat} (h : place ∉ table.entries.map (·.1)) :
    table.find? place = none := by
  rw [find?, Option.map_eq_none_iff, List.find?_eq_none]
  intro entry hentry hplace
  exact h (List.mem_map.mpr ⟨entry, hentry, by simpa using hplace⟩)

/-- What is put at a place is found there, and nothing changes at other places. -/
theorem find?_put (table : Table α) (place : Nat) (entry : Entry α) (other : Nat) :
    (table.put place entry).find? other =
      if other = place then some entry else table.find? other := by
  rw [find?, put, List.find?_append, find?_filter_ne]
  by_cases h : other = place
  · simp [h]
  · simp [find?, h, Ne.symm h]

/-- Pruning changes nothing at a place whose entries are those of living literals. -/
theorem find?_prune {table : Table α} {live : Nat → Bool} {place : Nat}
    (h : ∀ entry, (place, entry) ∈ table.entries → live entry.key = true) :
    (table.prune live).find? place = table.find? place := by
  obtain ⟨entries⟩ := table
  rw [find?, find?, prune]
  induction entries with
  | nil => rfl
  | cons entry entries ih =>
      obtain ⟨key, value⟩ := entry
      have ih := ih fun e he => h e (List.mem_cons_of_mem _ he)
      by_cases hkey : key = place
      · -- the first entry at the place stays, so it is the one that is found
        subst hkey
        have hlive : live value.key = true := h value List.mem_cons_self
        simp [hlive]
      · by_cases hlive : live value.key = true
        · simpa [hlive, hkey] using ih
        · simpa [hlive, hkey] using ih

end Table

/-! ## Sessions -/

namespace Session

/-- The literals that handles hold. -/
def held (session : Session) : List Literal :=
  session.handles.map (·.2)

/-- A serial number is that of a living literal iff a handle holds one with it. -/
theorem isLive_iff {session : Session} {serial : Nat} :
    session.isLive serial = true ↔ ∃ literal ∈ session.held, literal.serial = serial := by
  rw [isLive, List.any_eq_true]
  constructor
  · rintro ⟨entry, hentry, hserial⟩
    exact ⟨_, List.mem_map_of_mem hentry, by simpa using hserial⟩
  · rintro ⟨literal, hliteral, rfl⟩
    obtain ⟨entry, hentry, rfl⟩ := List.mem_map.mp hliteral
    exact ⟨entry, hentry, by simp⟩

/-- What a handle holds is held. -/
theorem mem_held_of_literal? {session : Session} {handle : String} {literal : Literal}
    (h : session.literal? handle = some literal) : literal ∈ session.held := by
  rw [literal?, Option.map_eq_some_iff] at h
  obtain ⟨entry, hfind, rfl⟩ := h
  exact List.mem_map_of_mem (List.mem_of_find?_eq_some hfind)

/-- Letting go what one handle holds concerns no other handle. -/
theorem literal?_release (session : Session) (handle other : String) :
    (session.release handle).literal? other =
      if other = handle then none else session.literal? other := by
  rw [literal?, release, find?_filter_ne]
  by_cases h : other = handle
  · simp [h]
  · simp [literal?, h]

/-- A handle holds what it was made to hold last, and all others what they held. -/
theorem literal?_hold (session : Session) (handle other : String) (literal : Literal) :
    (session.hold handle literal).literal? other =
      if other = handle then some literal else session.literal? other := by
  rw [literal?, hold, release, List.find?_append, find?_filter_ne]
  by_cases h : other = handle
  · simp [h]
  · simp [literal?, h, Ne.symm h]

/-- Letting go makes no literal live. -/
theorem held_release_subset (session : Session) (handle : String) :
    (session.release handle).held ⊆ session.held :=
  List.map_subset _ List.filter_sublist.subset

/-- Holding a literal makes no other one live. -/
theorem mem_held_hold {session : Session} {handle : String} {literal other : Literal}
    (h : other ∈ (session.hold handle literal).held) : other = literal ∨ other ∈ session.held := by
  rw [held, hold, List.map_append, List.mem_append] at h
  rcases h with h | h
  · exact .inr (held_release_subset session handle h)
  · exact .inl (by simpa using h)

/-- Living literals have been made, and are known by their serial numbers and by their places.
Entries were made for literals that have been made, and an entry is at the place of a living literal
iff it was made for it. -/
structure Sound (session : Session) : Prop where
  made : ∀ l ∈ session.held, l.serial < session.created
  same : ∀ l ∈ session.held, ∀ m ∈ session.held, l.serial = m.serial → l = m
  apart : ∀ l ∈ session.held, ∀ m ∈ session.held, l.place = m.place → l = m
  known : ∀ e ∈ session.table.entries, e.2.key < session.created
  own : ∀ e ∈ session.table.entries, ∀ l ∈ session.held, l.place = e.1 ↔ l.serial = e.2.key

/-- A session is sound at its start. -/
theorem sound_empty : ({} : Session).Sound := by
  constructor <;> simp [held]

/-- Letting go of literals and forgetting entries harms nothing. -/
theorem Sound.mono {s t : Session} (hs : s.Sound) (hheld : t.held ⊆ s.held)
    (hentries : t.table.entries ⊆ s.table.entries) (hcreated : s.created ≤ t.created) :
    t.Sound where
  made l hl := Nat.lt_of_lt_of_le (hs.made l (hheld hl)) hcreated
  same l hl m hm := hs.same l (hheld hl) m (hheld hm)
  apart l hl m hm := hs.apart l (hheld hl) m (hheld hm)
  known e he := Nat.lt_of_lt_of_le (hs.known e (hentries he)) hcreated
  own e he l hl := hs.own e (hentries he) l (hheld hl)

/-- What is kept for a living literal is whatever is at its place. -/
theorem Sound.get?_eq {session : Session} (hs : session.Sound) {literal : Literal}
    (hl : literal ∈ session.held) :
    session.get? literal = (session.table.find? literal.place).map Entry.value := by
  rw [get?, Table.get?]
  cases hfind : session.table.find? literal.place with
  | none => rfl
  | some entry =>
      have hkey : literal.serial = entry.key :=
        (hs.own _ (Table.mem_of_find? hfind) literal hl).mp rfl
      have hlive : session.isLive entry.key = true := isLive_iff.mpr ⟨literal, hl, hkey⟩
      simp [hlive, hkey]

/-- Two sessions with the same table keep the same for a literal that lives in both. -/
theorem Sound.get?_congr {s t : Session} (hs : s.Sound) (ht : t.Sound) (htable : t.table = s.table)
    {literal : Literal} (hls : literal ∈ s.held) (hlt : literal ∈ t.held) :
    t.get? literal = s.get? literal := by
  rw [hs.get?_eq hls, ht.get?_eq hlt, htable]

/-! ### New literals -/

/-- A new literal keeps a session sound, if its place is free. -/
theorem Sound.create {session : Session} (hs : session.Sound) (handle : String)
    (segments : List String) {place : Nat} (hplace : place ∉ session.usedPlaces) :
    ({ session with created := session.created + 1 }.hold handle
      ⟨session.created, place, segments⟩).Sound := by
  rw [usedPlaces, List.mem_append, not_or] at hplace
  obtain ⟨hfree, hunused⟩ := hplace
  -- a literal that was held before is at another place, and has another identity
  have hnew : ∀ l ∈ session.held, l.place ≠ place ∧ l.serial ≠ session.created := by
    intro l hl
    refine ⟨fun h => hfree ?_, Nat.ne_of_lt (hs.made l hl)⟩
    obtain ⟨entry, hentry, rfl⟩ := List.mem_map.mp hl
    exact List.mem_map.mpr ⟨entry, hentry, h⟩
  constructor
  · intro l hl
    rcases mem_held_hold hl with rfl | hl
    · exact Nat.lt_succ_self _
    · exact Nat.lt_succ_of_lt (hs.made l hl)
  · intro l hl m hm h
    rcases mem_held_hold hl with rfl | hl <;> rcases mem_held_hold hm with rfl | hm
    · rfl
    · exact absurd h.symm (hnew m hm).2
    · exact absurd h (hnew l hl).2
    · exact hs.same l hl m hm h
  · intro l hl m hm h
    rcases mem_held_hold hl with rfl | hl <;> rcases mem_held_hold hm with rfl | hm
    · rfl
    · exact absurd h.symm (hnew m hm).1
    · exact absurd h (hnew l hl).1
    · exact hs.apart l hl m hm h
  · intro e he
    exact Nat.lt_succ_of_lt (hs.known e he)
  · intro e he l hl
    rcases mem_held_hold hl with rfl | hl
    · -- the new literal is at the place of no entry, and none was made for it
      refine ⟨fun h => absurd (List.mem_map.mpr ⟨e, he, h.symm⟩) hunused, fun h => ?_⟩
      exact absurd h.symm (Nat.ne_of_lt (hs.known e he))
    · exact hs.own e he l hl

/-! ### Pruning and inserting -/

/-- Pruning keeps a session sound. -/
theorem Sound.prune {session : Session} (hs : session.Sound) : session.prune.Sound :=
  hs.mono (List.Subset.refl _) List.filter_sublist.subset (Nat.le_refl _)

/-- Pruning forgets nothing at the place of a living literal. -/
theorem Sound.find?_prune {session : Session} (hs : session.Sound) {literal : Literal}
    (hl : literal ∈ session.held) :
    session.prune.table.find? literal.place = session.table.find? literal.place := by
  refine Table.find?_prune fun entry hentry => ?_
  exact isLive_iff.mpr ⟨literal, hl, (hs.own _ hentry literal hl).mp rfl⟩

/-- Pruning changes nothing that is kept for a living literal. -/
theorem Sound.get?_prune {session : Session} (hs : session.Sound) {literal : Literal}
    (hl : literal ∈ session.held) : session.prune.get? literal = session.get? literal := by
  rw [hs.get?_eq hl, hs.prune.get?_eq hl, hs.find?_prune hl]

/-- Inserting a value for a living literal keeps a session sound. -/
theorem Sound.insert {session : Session} (hs : session.Sound) {literal : Literal}
    (hl : literal ∈ session.held) (text : String) : (session.insert literal text).2.Sound where
  made := hs.made
  same := hs.same
  apart := hs.apart
  known e he := by
    rcases List.mem_append.mp he with he | he
    · exact hs.prune.known e (List.mem_filter.mp he).1
    · obtain rfl : e = _ := List.mem_singleton.mp he
      exact hs.made literal hl
  own e he l hl' := by
    rcases List.mem_append.mp he with he | he
    · exact hs.prune.own e (List.mem_filter.mp he).1 l hl'
    · obtain rfl : e = _ := List.mem_singleton.mp he
      -- the new entry is at the place of its literal, and living literals are apart
      refine ⟨fun h => ?_, fun h => ?_⟩
      · rw [hs.apart l hl' literal hl h]
      · rw [hs.same l hl' literal hl h]

/-- An insertion is found for its own literal, and changes nothing for another living one. -/
theorem Sound.get?_insert {session : Session} (hs : session.Sound) {literal other : Literal}
    (hl : literal ∈ session.held) (ho : other ∈ session.held) (text : String) :
    (session.insert literal text).2.get? other =
      if other.serial = literal.serial then some ⟨session.stored, text⟩
      else session.get? other := by
  have hfind : (session.insert literal text).2.table.find? other.place =
      if other.place = literal.place then some ⟨literal.serial, ⟨session.stored, text⟩⟩
      else session.table.find? other.place := by
    rw [← hs.find?_prune ho]
    exact Table.find?_put _ _ _ _
  -- both sides are what is at the place of `other`, and living literals at one place are the same
  rw [(hs.insert hl text).get?_eq ho, hfind, hs.get?_eq ho]
  by_cases h : other.serial = literal.serial
  · rw [hs.same other ho literal hl h, if_pos rfl, if_pos rfl, Option.map_some]
  · have hplace : other.place ≠ literal.place :=
      fun hp => h (by rw [hs.apart other ho literal hl hp])
    rw [if_neg h, if_neg hplace]

/-! ### Callbacks -/

/-- What running a callback comes to: `act` gives what `callback` says, and asks parsers what `asks`
says. -/
def Acts (act : List String → StateM Calls (Except Refusal String))
    (callback : List String → Except Refusal String) (asks : List String → List ParseRequest) :
    Prop :=
  ∀ segments calls, (act segments).run calls = (callback segments, calls.record (asks segments))

/-- A callback without effects asks nothing. -/
theorem acts_pure (callback : List String → Except Refusal String) :
    Acts (fun segments => pure (callback segments)) callback fun _ => [] := by
  intro segments calls
  rw [Calls.record, List.append_nil]
  rfl

/-- Compiling asks the parser once, if there is no tree. -/
theorem acts_compileCallback (configure : Settings Id → Settings Id) :
    Acts (compileCallback configure) (compiled configure)
      fun segments => (configure (.ofSegments segments)).asked :=
  run_compileCallback configure

section

variable (session : Session) {literal : Literal}
  {act : List String → StateM Calls (Except Refusal String)}
  {callback : List String → Except Refusal String} {asks : List String → List ParseRequest}

/-- The calls after one more run of a callback on the literal. -/
def callsAfter (asks : List String → List ParseRequest) (literal : Literal) : Calls :=
  ⟨session.calls.callbacks + 1, session.calls.requests ++ asks literal.segments⟩

/-- If something is kept, the callback is not run. -/
theorem answer_of_hit (act : List String → StateM Calls (Except Refusal String)) {value : Stored}
    (h : session.get? literal = some value) :
    session.answer literal (counted act) = (.value value, session) := by
  simp only [answer, getOrInsert, h]
  rfl

/-- If nothing is kept, the callback is run once, and what it gives is inserted. -/
theorem answer_of_miss (hact : Acts act callback asks) (h : session.get? literal = none) :
    session.answer literal (counted act) =
      match callback literal.segments with
      | .error refusal =>
        (.refused refusal, { session with calls := session.callsAfter asks literal })
      | .ok text => (.value (session.insert literal text).1,
          { (session.insert literal text).2 with calls := session.callsAfter asks literal }) := by
  -- counting the run comes before the callback's own effect on the calls
  have hrun : (counted act literal.segments).run session.calls =
      (callback literal.segments, session.callsAfter asks literal) :=
    hact literal.segments { session.calls with callbacks := session.calls.callbacks + 1 }
  simp only [answer, getOrInsert, h, StateT.run_bind, hrun]
  cases callback literal.segments <;> rfl

/-- The calls are counted whether the callback fails or not. -/
theorem calls_answer_of_miss (hact : Acts act callback asks) (h : session.get? literal = none) :
    (session.answer literal (counted act)).2.calls = session.callsAfter asks literal := by
  rw [answer_of_miss session hact h]
  cases callback literal.segments <;> rfl

/-- A callback that fails, if it is run at all, leaves the table as it is. -/
theorem table_answer_of_error (hact : Acts act callback asks) {refusal : Refusal}
    (h : callback literal.segments = .error refusal) :
    (session.answer literal (counted act)).2.table = session.table := by
  cases hget : session.get? literal with
  | some value => rw [answer_of_hit session act hget]
  | none => rw [answer_of_miss session hact hget, h]

end

end Session

end Taglit.Cache
