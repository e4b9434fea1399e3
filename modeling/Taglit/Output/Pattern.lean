import Taglit.Text.Escape

/-!
# Patterns with placeholders

A pattern is a text in which a dollar sign and a name stand for a value, as in `on$name`.  It is
split once into literal segments and tokens, and rendered against a record of placeholders.  A token
takes the value of the longest bound name that it starts with, and keeps the characters after that
name; a token with no such name stays as it was written.

The value of a placeholder may be deferred: it is then worked out each time it is asked for.
Rendering is written over any monad, so that asking is an effect which can be observed.
-/

namespace Taglit.Output

/-! ## Placeholders -/

/-- A value bound to a name: a text at hand, or one that is worked out when it is asked for. -/
inductive Placeholder (m : Type → Type) where
  | text (value : String)
  | deferred (value : m String)

/-- Ask for the value of a placeholder. -/
def Placeholder.force {m : Type → Type} [Monad m] : Placeholder m → m String
  | text value => pure value
  | deferred value => value

/-- A record of placeholders, in the order in which their names were first bound. -/
structure Placeholders (m : Type → Type) where
  values : List (String × Placeholder m) := []

namespace Placeholders

variable {m : Type → Type}

/-- Bind a name in a list of bound names: in its place if it is bound there, else at the end. -/
def insert (values : List (String × Placeholder m)) (name : String) (value : Placeholder m) :
    List (String × Placeholder m) :=
  match values with
  | [] => [(name, value)]
  | (key, old) :: values =>
    if key = name then (key, value) :: values else (key, old) :: insert values name value

/-- Bind a name to a text. -/
def bind (record : Placeholders m) (name value : String) : Placeholders m :=
  ⟨insert record.values name (.text value)⟩

/-- Bind a name to a text that is worked out when it is asked for. -/
def bindDeferred (record : Placeholders m) (name : String) (value : m String) : Placeholders m :=
  ⟨insert record.values name (.deferred value)⟩

/-- The bound names, in order. -/
def names (record : Placeholders m) : List String :=
  record.values.map (·.1)

/-- The record for readers: its names, quoted. -/
def describe (record : Placeholders m) : String :=
  "[" ++ ", ".intercalate (record.names.map Text.quote) ++ "]"

/-- Whether a name is bound. -/
def contains (record : Placeholders m) (name : String) : Bool :=
  record.names.contains name

/-- The placeholder bound to a name. -/
def find? (record : Placeholders m) (name : String) : Option (Placeholder m) :=
  (record.values.find? (·.1 == name)).map (·.2)

/-- Ask for the value of a name. -/
def get? [Monad m] (record : Placeholders m) (name : String) : m (Option String) :=
  match record.find? name with
  | none => pure none
  | some placeholder => do return some (← placeholder.force)

/-- The entry of the longest name with which the characters begin. -/
def longest? : List (String × Placeholder m) → List Char → Option (String × Placeholder m)
  | [], _ => none
  | entry :: values, token =>
    match longest? values token with
    | none => if entry.1.toList.isPrefixOf token then some entry else none
    | some best =>
      if entry.1.toList.isPrefixOf token && best.1.length < entry.1.length then some entry
      else some best

end Placeholders

/-! ## Segments -/

/-- A part of a pattern: characters that stand for themselves, or those of a name after a dollar
sign. -/
inductive Segment where
  | literal (text : List Char)
  | token (name : List Char)
  deriving DecidableEq, Repr

/-- The characters that may start the name of a token. -/
def isTokenHead (c : Char) : Bool :=
  c.isAlpha || c == '_'

/-- The characters that may continue the name of a token. -/
def isTokenTail (c : Char) : Bool :=
  c.isAlphanum || c == '_'

/-- Put a literal character before a list of segments. -/
def consLiteral (c : Char) : List Segment → List Segment
  | .literal text :: segments => .literal (c :: text) :: segments
  | segments => .literal [c] :: segments

/-- Split characters into segments.  A token is as long as it can be. -/
def segmentsOf (cs : List Char) : List Segment :=
  match cs with
  | [] => []
  | '$' :: c :: rest =>
    if isTokenHead c then
      .token (c :: rest.takeWhile isTokenTail) :: segmentsOf (rest.dropWhile isTokenTail)
    -- only the dollar sign is passed, since the character after it may open a token
    else consLiteral '$' (segmentsOf (c :: rest))
  | c :: rest => consLiteral c (segmentsOf rest)
termination_by cs.length
decreasing_by
  · have := (List.dropWhile_sublist (l := rest) isTokenTail).length_le
    simp
    omega
  · simp
  · simp

/-- The characters from which a segment was split off. -/
def Segment.source : Segment → List Char
  | literal text => text
  | token name => '$' :: name

/-- A segment with its placeholder filled in. -/
def Segment.render {m : Type → Type} [Monad m] (record : Placeholders m) : Segment → m (List Char)
  | literal text => pure text
  | token name =>
    match Placeholders.longest? record.values name with
    | none => pure ('$' :: name)
    | some (bound, placeholder) => do
      return (← placeholder.force).toList ++ name.drop bound.length

/-! ## Patterns -/

/-- A pattern: its text, and the segments it is split into. -/
structure Pattern where
  source : String
  segments : List Segment
  deriving DecidableEq

namespace Pattern

/-- Split a text into a pattern. -/
def parse (source : String) : Pattern :=
  ⟨source, segmentsOf source.toList⟩

/-- Whether a token of the pattern starts with the given name. -/
def references (pattern : Pattern) (name : String) : Bool :=
  pattern.segments.any fun
    | .literal _ => false
    | .token token => name.toList.isPrefixOf token

/-- The pattern with its placeholders filled in. -/
def render {m : Type → Type} [Monad m] (pattern : Pattern) (record : Placeholders m) :
    m String := do
  let parts ← pattern.segments.mapM (Segment.render record)
  return .ofList parts.flatten

end Pattern

end Taglit.Output
