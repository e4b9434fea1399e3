import Taglit.Proofs.Cache.Asked

/-!
# Sessions without places

What a cache is meant to do, said without a table and without places: a *ledger* has the insertions
of a session in order, each for the identity of a literal, and the latest one counts.  Nothing is
ever forgotten, and a literal is nothing but its identity and its segments.
-/

namespace Taglit.Cache

/-- A literal, wherever it is kept.  No two literals have the same `serial`. -/
structure Identity where
  serial : Nat
  segments : List String
  deriving DecidableEq

/-- The literal without its place. -/
def Literal.identity (literal : Literal) : Identity :=
  ⟨literal.serial, literal.segments⟩

/-- A literal has the same segments wherever it is kept. -/
theorem Literal.segments_identity (literal : Literal) :
    literal.identity.segments = literal.segments := rfl

/-- The handle for whose literal a step may insert a value. -/
def Step.inserts? : Step → Option String
  | .insert handle _ => some handle
  | .getOrInsert handle _ => some handle
  | .compile handle _ => some handle
  | _ => none

/-- The state of a session without places: the literal that each handle holds, the number of
literals made, the insertions in order, each with the serial number of its literal, and the calls so
far. -/
structure Ledger where
  held : String → Option Identity := fun _ => none
  created : Nat := 0
  insertions : List (Nat × Stored) := []
  calls : Calls := {}

namespace Ledger

/-- The value of the latest insertion for a literal. -/
def latest (ledger : Ledger) (serial : Nat) : Option Stored :=
  (ledger.insertions.reverse.find? (·.1 == serial)).map (·.2)

/-- Make a handle hold a literal, or nothing. -/
def assign (ledger : Ledger) (handle : String) (literal : Option Identity) : Ledger :=
  { ledger with held := fun h => if h = handle then literal else ledger.held h }

/-- A handle holds what it was made to hold last, and all others what they held. -/
theorem held_assign (ledger : Ledger) (handle other : String) (literal : Option Identity) :
    (ledger.assign handle literal).held other =
      if other = handle then literal else ledger.held other := rfl

/-- Insert a new value for a literal. -/
def insert (ledger : Ledger) (literal : Identity) (text : String) : Stored × Ledger :=
  let value : Stored := ⟨ledger.insertions.length, text⟩
  (value, { ledger with insertions := ledger.insertions ++ [(literal.serial, value)] })

/-- Answer with the latest value for a literal, or else run a callback, count it, record what it
asks of a parser, and insert what it gives. -/
def answer (ledger : Ledger) (literal : Identity) (callback : List String → Except Refusal String)
    (asks : List String → List ParseRequest) : Outcome × Ledger :=
  match ledger.latest literal.serial with
  | some value => (.value value, ledger)
  | none =>
    let calls := ⟨ledger.calls.callbacks + 1, ledger.calls.requests ++ asks literal.segments⟩
    let counted := { ledger with calls }
    match callback literal.segments with
    | .error refusal => (.refused refusal, counted)
    | .ok text =>
      let (value, next) := counted.insert literal text
      (.value value, next)

/-- Do something with the literal that a handle holds. -/
def withLiteral (ledger : Ledger) (handle : String) (act : Identity → Outcome × Ledger) :
    Outcome × Ledger :=
  match ledger.held handle with
  | none => (.nothing, ledger)
  | some literal => act literal

/-- Take one step. -/
def step (ledger : Ledger) : Step → Outcome × Ledger
  | .create handle segments =>
    (.nothing, { ledger with created := ledger.created + 1 }.assign handle
      (some ⟨ledger.created, segments⟩))
  | .clone handle copy => ledger.withLiteral handle fun literal =>
    (.nothing, ledger.assign copy (some literal))
  | .drop handle => (.nothing, ledger.assign handle none)
  | .prune => (.nothing, ledger)
  | .get handle => ledger.withLiteral handle fun literal =>
    ((ledger.latest literal.serial).elim .nothing .value, ledger)
  | .insert handle text => ledger.withLiteral handle fun literal =>
    let (value, next) := ledger.insert literal text
    (.value value, next)
  | .getOrInsert handle callback => ledger.withLiteral handle fun literal =>
    ledger.answer literal callback fun _ => []
  | .compile handle configure => ledger.withLiteral handle fun literal =>
    ledger.answer literal (compiled configure) fun segments =>
      (configure (.ofSegments segments)).asked

/-- Take steps one after the other. -/
def run (ledger : Ledger) : List Step → List (Outcome × Ledger)
  | [] => []
  | s :: steps =>
    let (outcome, next) := ledger.step s
    (outcome, next) :: next.run steps

/-- The ledger after steps. -/
def after (ledger : Ledger) (steps : List Step) : Ledger :=
  steps.foldl (fun l s => (l.step s).2) ledger

/-! ## Answering -/

section

variable (ledger : Ledger) {literal : Identity} (callback : List String → Except Refusal String)
  (asks : List String → List ParseRequest)

/-- If there is a latest value, the callback is not run. -/
theorem answer_of_hit {value : Stored} (h : ledger.latest literal.serial = some value) :
    ledger.answer literal callback asks = (.value value, ledger) := by
  rw [answer, h]

/-- If there is none, the callback is run once, and what it gives is inserted. -/
theorem answer_of_miss (h : ledger.latest literal.serial = none) :
    let calls := ⟨ledger.calls.callbacks + 1, ledger.calls.requests ++ asks literal.segments⟩
    ledger.answer literal callback asks =
      match callback literal.segments with
      | .error refusal => (.refused refusal, { ledger with calls })
      | .ok text => (.value (ledger.insert literal text).1,
          { (ledger.insert literal text).2 with calls }) := by
  rw [answer, h]
  rfl

end

/-! ## The latest insertion -/

/-- A value that was just inserted is the latest one of its literal, -/
theorem latest_insert_self (ledger : Ledger) (literal : Identity) (text : String) :
    (ledger.insert literal text).2.latest literal.serial = some (ledger.insert literal text).1 := by
  simp [latest, insert]

/-- and of no other literal. -/
theorem latest_insert_of_ne (ledger : Ledger) {literal : Identity} {serial : Nat} (text : String)
    (h : literal.serial ≠ serial) :
    (ledger.insert literal text).2.latest serial = ledger.latest serial := by
  simp [latest, insert, h]

/-- The latest value of a literal was inserted for it. -/
theorem mem_insertions_of_latest {ledger : Ledger} {serial : Nat} {value : Stored}
    (h : ledger.latest serial = some value) : (serial, value) ∈ ledger.insertions := by
  rw [latest, Option.map_eq_some_iff] at h
  obtain ⟨⟨key, found⟩, hfind, rfl⟩ := h
  have hkey : key = serial := by simpa using List.find?_some hfind
  subst hkey
  exact List.mem_reverse.mp (List.mem_of_find?_eq_some hfind)

/-- A literal for which nothing was inserted has no latest value. -/
theorem latest_eq_none {ledger : Ledger} {serial : Nat}
    (h : ∀ p ∈ ledger.insertions, p.1 ≠ serial) : ledger.latest serial = none := by
  rw [latest, Option.map_eq_none_iff, List.find?_eq_none]
  intro p hp
  simpa using h p (List.mem_reverse.mp hp)

/-! ## Steps for other literals -/

/-- Asking for the value of a literal changes the latest value of no other one. -/
theorem latest_answer_of_ne (ledger : Ledger) {literal : Identity} {serial : Nat}
    (callback : List String → Except Refusal String) (asks : List String → List ParseRequest)
    (h : literal.serial ≠ serial) :
    (ledger.answer literal callback asks).2.latest serial = ledger.latest serial := by
  cases hlatest : ledger.latest literal.serial with
  | some value => rw [ledger.answer_of_hit callback asks hlatest]
  | none =>
      rw [ledger.answer_of_miss callback asks hlatest]
      cases callback literal.segments with
      | error refusal => rfl
      | ok text => exact latest_insert_of_ne ledger text h

/-- A step changes the latest value of no literal but the one for which it inserts. -/
theorem latest_step_of_ne (ledger : Ledger) (step : Step) {serial : Nat}
    (h : ∀ handle literal, step.inserts? = some handle → ledger.held handle = some literal →
      literal.serial ≠ serial) :
    (ledger.step step).2.latest serial = ledger.latest serial := by
  -- a handle that holds nothing has no part in it
  have hwith {handle : String} {act : Identity → Outcome × Ledger}
      (hact : ∀ literal, ledger.held handle = some literal →
        (act literal).2.latest serial = ledger.latest serial) :
      (ledger.withLiteral handle act).2.latest serial = ledger.latest serial := by
    unfold withLiteral
    split
    · rfl
    · exact hact _ ‹_›
  cases step with
  | create handle segments => rfl
  | clone handle copy => exact hwith fun literal _ => rfl
  | drop handle => rfl
  | prune => rfl
  | get handle => exact hwith fun literal _ => rfl
  | insert handle text =>
      exact hwith fun literal hheld => latest_insert_of_ne ledger text (h handle literal rfl hheld)
  | getOrInsert handle callback =>
      exact hwith fun literal hheld => latest_answer_of_ne ledger _ _ (h handle literal rfl hheld)
  | compile handle configure =>
      exact hwith fun literal hheld => latest_answer_of_ne ledger _ _ (h handle literal rfl hheld)

end Ledger

end Taglit.Cache
