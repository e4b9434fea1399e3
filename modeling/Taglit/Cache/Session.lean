import Taglit.Cache.Basic
import Taglit.Literal

/-!
# Sessions with a cache

A session is what a host program does with a cache: it makes literals, holds them by named handles,
lets them go, and asks for what they compile to.  A literal lives as long as a handle holds it.
Where a new literal is kept is up to the host; all that is asked is that no living literal and no
entry of the cache is at that place.

What is not kept yet is worked out by a callback of the host.  A session counts how often callbacks
are run, and compiles with a parser that keeps a record of what it is asked.
-/

namespace Taglit.Cache

/-- A value of the cache: a text, and how many values were made before it in the session. -/
structure Stored where
  serial : Nat
  text : String
  deriving DecidableEq

/-- How often callbacks were run, and what parsers were asked. -/
structure Calls where
  callbacks : Nat := 0
  requests : List ParseRequest := []

/-- The state of a session: the handles with the literals that they hold, the number of literals
made, the cache, the number of values made, and the calls so far. -/
structure Session where
  handles : List (String × Literal) := []
  created : Nat := 0
  table : Table Stored := {}
  stored : Nat := 0
  calls : Calls := {}

namespace Session

/-- How often a parser was asked. -/
def parserCalls (session : Session) : Nat :=
  session.calls.requests.length

/-- Whether a literal lives: a handle holds it. -/
def isLive (session : Session) (serial : Nat) : Bool :=
  session.handles.any (·.2.serial == serial)

/-- The literal that a handle holds. -/
def literal? (session : Session) (handle : String) : Option Literal :=
  (session.handles.find? (·.1 == handle)).map (·.2)

/-- The places that are not free: those of living literals, and those that entries remember. -/
def usedPlaces (session : Session) : List Nat :=
  session.handles.map (·.2.place) ++ session.table.entries.map (·.1)

/-- Let go what a handle holds. -/
def release (session : Session) (handle : String) : Session :=
  { session with handles := session.handles.filter (·.1 != handle) }

/-- Make a handle hold a literal, instead of what it held. -/
def hold (session : Session) (handle : String) (literal : Literal) : Session :=
  let released := session.release handle
  { released with handles := released.handles ++ [(handle, literal)] }

/-- Forget what is kept for literals that are gone. -/
def prune (session : Session) : Session :=
  { session with table := session.table.prune session.isLive }

/-- What is kept for a literal. -/
def get? (session : Session) (literal : Literal) : Option Stored :=
  session.table.get? session.isLive literal

/-- Keep a new value for a literal. -/
def insert (session : Session) (literal : Literal) (text : String) : Stored × Session :=
  let value : Stored := ⟨session.stored, text⟩
  (value, { session with
    stored := session.stored + 1
    table := session.table.insert session.isLive literal value })

/-- What is kept for a literal; if nothing is, run the callback and keep what it gives.  If it fails
nothing changes. -/
def getOrInsert {m : Type → Type} [Monad m] {ε : Type} (session : Session) (literal : Literal)
    (callback : List String → m (Except ε String)) : m (Except ε Stored × Session) :=
  match session.get? literal with
  | some value => pure (.ok value, session)
  | none => do
    match ← callback literal.segments with
    | .error e => return (.error e, session)
    | .ok text =>
      let (value, session) := session.insert literal text
      return (.ok value, session)

end Session

/-! ## Where literals are kept -/

/-- A way to choose the place of a new literal among those that are free.  The choice may depend on
all of the session, with the number of literals made so far, so any free places may be those of a
run. -/
structure Allocator where
  choose : Session → Nat
  choose_free : ∀ session, choose session ∉ session.usedPlaces

/-- No place lies above the greatest one. -/
theorem le_foldr_max {n : Nat} {places : List Nat} (h : n ∈ places) : n ≤ places.foldr max 0 := by
  induction places with
  | nil => cases h
  | cons p places ih =>
    rcases List.mem_cons.mp h with rfl | h
    · exact Nat.le_max_left _ _
    · exact Nat.le_trans (ih h) (Nat.le_max_right _ _)

/-- Keep each new literal just above all places that are not free. -/
def Allocator.stacked : Allocator where
  choose session := session.usedPlaces.foldr max 0 + 1
  choose_free session h := by
    have := le_foldr_max h
    omega

/-! ## Steps -/

/-- Why a step failed: what was to be kept could not be worked out, or could not be compiled. -/
inductive Refusal where
  | callback (reason : String)
  | compile (error : Error)
  deriving DecidableEq

/-- One step of a session.  A literal is made and held by a handle, held by another handle too, or
let go by one.  What is kept is forgotten for literals that are gone, asked for, or given as a text,
and is worked out by a callback or by compiling unless something is kept. -/
inductive Step where
  | create (handle : String) (segments : List String)
  | clone (handle copy : String)
  | drop (handle : String)
  | prune
  | get (handle : String)
  | insert (handle text : String)
  | getOrInsert (handle : String) (callback : List String → Except Refusal String)
  | compile (handle : String) (configure : Settings Id → Settings Id)

/-- What a step gives. -/
inductive Outcome where
  | nothing
  | value (stored : Stored)
  | refused (refusal : Refusal)
  deriving DecidableEq

/-- The outcome of a value or a reason why not. -/
def Outcome.ofExcept : Except Refusal Stored → Outcome
  | .ok stored => .value stored
  | .error refusal => .refused refusal

/-- Join segments by `+`, or fail with the given reason. -/
def joinSegments (failure : Option String) (segments : List String) : Except Refusal String :=
  match failure with
  | some reason => .error (.callback reason)
  | none => .ok ("+".intercalate segments)

/-- Keep the segments joined by `+` unless something is kept, or fail with the given reason. -/
def Step.tryInsert (handle : String) (failure : Option String) : Step :=
  .getOrInsert handle (joinSegments failure)

/-- A parser that keeps a record of what it is asked. -/
def recorded (parse : TemplateParser Id) : TemplateParser (StateM Calls) := fun request => do
  -- the record is kept where the parser is run, and nowhere else
  modify fun calls => { calls with requests := calls.requests ++ [request] }
  return parse request

/-- Settings whose parser, if there is one, keeps a record of what it is asked. -/
def recordedSettings (settings : Settings Id) : Settings (StateM Calls) :=
  { settings with parser? := settings.parser?.map recorded }

/-- Compile segments, with a record of what the parser is asked and with the error as a refusal. -/
def compileCallback (configure : Settings Id → Settings Id) (segments : List String) :
    StateM Calls (Except Refusal String) := do
  let recording settings := recordedSettings (configure settings)
  let result ← (compileSegments recording segments).run
  return result.mapError Refusal.compile

/-- Run a callback and count it. -/
def counted (callback : List String → StateM Calls (Except Refusal String))
    (segments : List String) : StateM Calls (Except Refusal String) := do
  modify fun calls => { calls with callbacks := calls.callbacks + 1 }
  callback segments

namespace Session

/-- Answer with what is kept for a literal, or else run a callback that counts calls. -/
def answer (session : Session) (literal : Literal)
    (callback : List String → StateM Calls (Except Refusal String)) : Outcome × Session :=
  -- a failure leaves the session as it is, but the calls have been made
  let ((result, next), calls) := (session.getOrInsert literal callback).run session.calls
  (.ofExcept result, { next with calls })

/-- Do something with the literal that a handle holds. -/
def withLiteral (session : Session) (handle : String) (act : Literal → Outcome × Session) :
    Outcome × Session :=
  match session.literal? handle with
  | none => (.nothing, session)
  | some literal => act literal

/-- Take one step. -/
def step (allocator : Allocator) (session : Session) : Step → Outcome × Session
  | .create handle segments =>
    let literal : Literal := ⟨session.created, allocator.choose session, segments⟩
    (.nothing, { session with created := session.created + 1 }.hold handle literal)
  | .clone handle copy =>
    session.withLiteral handle fun literal => (.nothing, session.hold copy literal)
  | .drop handle => (.nothing, session.release handle)
  | .prune => (.nothing, session.prune)
  | .get handle => session.withLiteral handle fun literal =>
    ((session.get? literal).elim .nothing .value, session)
  | .insert handle text => session.withLiteral handle fun literal =>
    let (stored, session) := session.insert literal text
    (.value stored, session)
  | .getOrInsert handle callback => session.withLiteral handle fun literal =>
    session.answer literal (counted fun segments => return callback segments)
  | .compile handle configure => session.withLiteral handle fun literal =>
    session.answer literal (counted (compileCallback configure))

/-- Take steps one after the other. -/
def run (allocator : Allocator) (session : Session) : List Step → List (Outcome × Session)
  | [] => []
  | s :: steps =>
    let (outcome, next) := session.step allocator s
    (outcome, next) :: next.run allocator steps

end Session

end Taglit.Cache
