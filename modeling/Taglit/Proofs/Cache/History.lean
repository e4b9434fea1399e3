import Taglit.Proofs.Cache.Ledger

/-!
# Which literals a cache should remember

A cache may forget a literal once no handle holds it, and does so when it *sweeps*: when it is
pruned, and when a value is inserted.  `Retained` says which literals are left after a run, in terms
of the run alone: those for which a value was inserted, and which live or have lost their last
handle since the last sweep.

What one more step changes about that is `retained_concat_of_sweeps` and
`retained_concat_of_not_sweeps`.  The second one needs that a literal without a handle gets none
again.
-/

namespace Taglit.Cache

namespace Ledger

/-! ## Lives and sweeps -/

/-- A literal lives as long as a handle holds it. -/
def Lives (ledger : Ledger) (serial : Nat) : Prop :=
  ∃ handle literal, ledger.held handle = some literal ∧ literal.serial = serial

/-- A value was inserted for a literal. -/
def HasInsertion (ledger : Ledger) (serial : Nat) : Prop :=
  ∃ value, (serial, value) ∈ ledger.insertions

/-- A step prunes, or inserts a value. -/
def Sweeps (ledger : Ledger) (step : Step) : Prop :=
  step = .prune ∨ (ledger.step step).2.insertions ≠ ledger.insertions

/-- A value was inserted for a literal iff one of them is the latest. -/
theorem hasInsertion_iff {ledger : Ledger} {serial : Nat} :
    ledger.HasInsertion serial ↔ ∃ value, ledger.latest serial = some value := by
  refine ⟨fun ⟨value, hvalue⟩ => ?_,
    fun ⟨value, hvalue⟩ => ⟨value, mem_insertions_of_latest hvalue⟩⟩
  cases hlatest : ledger.latest serial with
  | some latest => exact ⟨latest, rfl⟩
  | none =>
      rw [latest, Option.map_eq_none_iff, List.find?_eq_none] at hlatest
      exact absurd (beq_self_eq_true serial) (hlatest (serial, value) (List.mem_reverse.mpr hvalue))

/-- A run with one more step at its end. -/
theorem after_concat (ledger : Ledger) (steps : List Step) (step : Step) :
    ledger.after (steps ++ [step]) = ((ledger.after steps).step step).2 := by
  rw [after, List.foldl_append]
  rfl

/-- Only what a handle is made to hold can start to live by it. -/
theorem lives_of_lives_assign {ledger : Ledger} {handle : String} {literal : Option Identity}
    {serial : Nat} (h : (ledger.assign handle literal).Lives serial) :
    ledger.Lives serial ∨ ∃ l, literal = some l ∧ l.serial = serial := by
  obtain ⟨other, l, hheld, hserial⟩ := h
  rw [held_assign] at hheld
  by_cases hother : other = handle
  · rw [if_pos hother] at hheld
    exact .inr ⟨l, hheld, hserial⟩
  · rw [if_neg hother] at hheld
    exact .inl ⟨other, l, hheld, hserial⟩

/-- Asking for a value moves no handle. -/
theorem held_answer (ledger : Ledger) (literal : Identity)
    (callback : List String → Except Refusal String) (asks : List String → List ParseRequest) :
    (ledger.answer literal callback asks).2.held = ledger.held := by
  unfold answer
  split
  · rfl
  · cases callback literal.segments <;> rfl

/-- A literal that lives after a step has lived before, or is the one that the step has made. -/
theorem lives_of_lives_step {ledger : Ledger} {step : Step} {serial : Nat}
    (h : (ledger.step step).2.Lives serial) : ledger.Lives serial ∨ serial = ledger.created := by
  -- most steps do something with the literal of a handle, or nothing if it holds none
  have hwith : ∀ {handle : String} {act : Identity → Outcome × Ledger},
      (∀ literal, ledger.held handle = some literal → (act literal).2.Lives serial →
        ledger.Lives serial) →
      (ledger.withLiteral handle act).2.Lives serial → ledger.Lives serial := by
    intro handle act hact hlives
    unfold withLiteral at hlives
    split at hlives
    · exact hlives
    · exact hact _ ‹_› hlives
  cases step with
  | create handle segments =>
      rcases lives_of_lives_assign h with hlives | ⟨l, hl, rfl⟩
      · exact .inl hlives
      · cases hl
        exact .inr rfl
  | clone handle copy =>
      refine .inl (hwith (fun literal hheld hlives => ?_) h)
      rcases lives_of_lives_assign hlives with hlives | ⟨l, hl, rfl⟩
      · exact hlives
      · cases hl
        exact ⟨handle, literal, hheld, rfl⟩
  | drop handle =>
      rcases lives_of_lives_assign h with hlives | ⟨l, hl, -⟩
      · exact .inl hlives
      · cases hl
  | prune => exact .inl h
  | get handle => exact .inl (hwith (fun _ _ hlives => hlives) h)
  | insert handle text => exact .inl (hwith (fun _ _ hlives => hlives) h)
  | getOrInsert handle callback =>
      refine .inl (hwith (fun literal _ hlives => ?_) h)
      rwa [Lives, held_answer] at hlives
  | compile handle configure =>
      refine .inl (hwith (fun literal _ hlives => ?_) h)
      rwa [Lives, held_answer] at hlives

end Ledger

/-! ## Runs -/

/-- The ledger after the first steps of a run. -/
def ledgerAt (steps : List Step) (n : Nat) : Ledger :=
  ({} : Ledger).after (steps.take n)

/-- Step `i` of a run sweeps. -/
def SweptAt (steps : List Step) (i : Nat) : Prop :=
  ∃ step, steps[i]? = some step ∧ (ledgerAt steps i).Sweeps step

/-- A literal loses its last handle at step `i` of a run. -/
def LostAt (steps : List Step) (serial i : Nat) : Prop :=
  i < steps.length ∧ (ledgerAt steps i).Lives serial ∧ ¬ (ledgerAt steps (i + 1)).Lives serial

/-- A value was inserted for a literal, and it lives, or has lost its last handle after the last
sweep. -/
def Retained (steps : List Step) (serial : Nat) : Prop :=
  (({} : Ledger).after steps).HasInsertion serial ∧
    ((({} : Ledger).after steps).Lives serial ∨
      ∃ i, LostAt steps serial i ∧ ∀ j, SweptAt steps j → j < i)

variable {steps : List Step} {step : Step} {serial : Nat}

/-- Nothing is retained before the first step. -/
theorem not_retained_nil (serial : Nat) : ¬ Retained [] serial := by
  rintro ⟨⟨value, hvalue⟩, -⟩
  cases hvalue

/-- The ledger after all steps is that of the run. -/
theorem ledgerAt_length (steps : List Step) :
    ledgerAt steps steps.length = ({} : Ledger).after steps := by
  rw [ledgerAt, List.take_length]

/-- The past of a run stays as it was. -/
theorem ledgerAt_concat (steps : List Step) (step : Step) {n : Nat} (h : n ≤ steps.length) :
    ledgerAt (steps ++ [step]) n = ledgerAt steps n := by
  rw [ledgerAt, ledgerAt, List.take_append_of_le_length h]

/-- The ledger after the last step of a longer run. -/
theorem ledgerAt_concat_succ (steps : List Step) (step : Step) :
    ledgerAt (steps ++ [step]) (steps.length + 1) = ((({} : Ledger).after steps).step step).2 := by
  rw [← Ledger.after_concat, ← ledgerAt_length, List.length_append, List.length_singleton]

/-- A place in a longer run is a place of the run, or the last one. -/
theorem le_length_of_lt_concat {i : Nat} (h : i < (steps ++ [step]).length) : i ≤ steps.length := by
  rw [List.length_append, List.length_singleton] at h
  exact Nat.le_of_lt_succ h

/-- Only steps of the run sweep. -/
theorem SweptAt.lt_length {i : Nat} (h : SweptAt steps i) : i < steps.length := by
  obtain ⟨step, hstep, -⟩ := h
  exact (List.getElem?_eq_some_iff.mp hstep).1

/-- Which steps of the past have swept does not change. -/
theorem sweptAt_concat {j : Nat} (h : j < steps.length) :
    SweptAt (steps ++ [step]) j ↔ SweptAt steps j := by
  rw [SweptAt, SweptAt, List.getElem?_append_left h, ledgerAt_concat steps step (Nat.le_of_lt h)]

/-- The last step sweeps iff it does so after the run before it. -/
theorem sweptAt_concat_length :
    SweptAt (steps ++ [step]) steps.length ↔ (({} : Ledger).after steps).Sweeps step := by
  rw [SweptAt, List.getElem?_concat_length, ledgerAt_concat steps step (Nat.le_refl _),
    ledgerAt_length]
  simp

/-- Neither does it change where in the past a literal has lost its last handle. -/
theorem lostAt_concat {i : Nat} (h : i < steps.length) :
    LostAt (steps ++ [step]) serial i ↔ LostAt steps serial i := by
  have hlt : i < (steps ++ [step]).length := by
    rw [List.length_append]
    omega
  rw [LostAt, LostAt, ledgerAt_concat steps step (Nat.le_of_lt h), ledgerAt_concat steps step h]
  simp only [hlt, h]

/-- A literal loses its last handle at the last step iff it lives before and not after it. -/
theorem lostAt_concat_length :
    LostAt (steps ++ [step]) serial steps.length ↔
      (({} : Ledger).after steps).Lives serial ∧
      ¬ ((({} : Ledger).after steps).step step).2.Lives serial := by
  rw [LostAt, ledgerAt_concat_succ, ledgerAt_concat steps step (Nat.le_refl _), ledgerAt_length]
  simp

/-! ## One more step -/

/-- After a sweep, what is retained lives. -/
theorem retained_concat_of_sweeps (h : (({} : Ledger).after steps).Sweeps step) :
    Retained (steps ++ [step]) serial ↔
      ((({} : Ledger).after steps).step step).2.HasInsertion serial ∧
        ((({} : Ledger).after steps).step step).2.Lives serial := by
  rw [Retained, Ledger.after_concat]
  refine and_congr_right fun _ => or_iff_left ?_
  -- nothing was lost after the step that was the last one
  rintro ⟨i, hlost, hlast⟩
  have hlt : steps.length < i := hlast steps.length (sweptAt_concat_length.mpr h)
  exact absurd (le_length_of_lt_concat hlost.1) (Nat.not_le_of_lt hlt)

/-- A step that does not sweep changes nothing, whether a literal loses its last handle by it or
not. -/
theorem retained_concat_of_not_sweeps (h : ¬ (({} : Ledger).after steps).Sweeps step)
    (hknown :
      ∀ p ∈ (({} : Ledger).after steps).insertions, p.1 < (({} : Ledger).after steps).created) :
    Retained (steps ++ [step]) serial ↔ Retained steps serial := by
  have hinsertions : ((({} : Ledger).after steps).step step).2.insertions =
      (({} : Ledger).after steps).insertions := Classical.not_not.mp (not_or.mp h).2
  have hswept : ∀ j, SweptAt (steps ++ [step]) j ↔ SweptAt steps j := by
    intro j
    rcases Nat.lt_trichotomy j steps.length with hlt | rfl | hgt
    · exact sweptAt_concat hlt
    · rw [sweptAt_concat_length]
      exact iff_of_false h fun hold => Nat.lt_irrefl _ hold.lt_length
    · refine iff_of_false (fun hnew => ?_) fun hold => Nat.lt_asymm hgt hold.lt_length
      exact absurd (le_length_of_lt_concat hnew.lt_length) (Nat.not_le_of_lt hgt)
  simp only [Retained, Ledger.after_concat, Ledger.HasInsertion, hinsertions, hswept]
  refine and_congr_right fun ⟨value, hvalue⟩ => ⟨?_, ?_⟩
  · rintro (hlives | ⟨i, hlost, hlast⟩)
    · rcases Ledger.lives_of_lives_step hlives with hlives | rfl
      · exact .inl hlives
      · -- a literal that was just made has no value yet
        exact absurd (hknown _ hvalue) (Nat.lt_irrefl _)
    · rcases Nat.lt_or_eq_of_le (le_length_of_lt_concat hlost.1) with hlt | rfl
      · exact .inr ⟨i, (lostAt_concat hlt).mp hlost, hlast⟩
      · exact .inl (lostAt_concat_length.mp hlost).1
  · rintro (hlives | ⟨i, hlost, hlast⟩)
    · by_cases hnext : ((({} : Ledger).after steps).step step).2.Lives serial
      · exact .inl hnext
      · -- it loses its last handle by this step, after all sweeps
        exact .inr ⟨steps.length, lostAt_concat_length.mpr ⟨hlives, hnext⟩,
          fun j hj => hj.lt_length⟩
    · exact .inr ⟨i, (lostAt_concat hlost.1).mpr hlost, hlast⟩

end Taglit.Cache
