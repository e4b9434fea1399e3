import Taglit.Json.Reader
import Taglit.Markup.Basic
import Taglit.Output.Options
import Taglit.Text.Basic
import Taglit.Text.Escape

/-!
# Compiled attributes

An attribute of the markup may be the shorthand for an event (`@name`, `(name)`, `onname`), for a
property (`.name`, `[name]`) or for a two-way binding (`[(name)]`, `:name`).  `compileAttributes`
gives each one its final name and says what it contributes: nothing, a static text, or code.  A
two-way binding adds a companion after all other attributes, the event that writes the property
back.
-/

namespace Taglit.Compiled

open Taglit.Output (Options)

/-- What an attribute contributes: its name alone, a text that is known now, or the source of an
expression. -/
inductive Content where
  | bare
  | static (text : String)
  | code (source : String)
  deriving DecidableEq, Repr

/-- An attribute under its final name. -/
structure Attribute where
  name : String
  content : Content
  deriving DecidableEq, Repr

/-- The source of an attribute that contributes code. -/
def Attribute.source? (a : Attribute) : Option String :=
  match a.content with
  | .code source => some source
  | _ => none

/-- Whether an attribute contributes code. -/
def Attribute.isCode (a : Attribute) : Bool :=
  match a.content with
  | .code _ => true
  | _ => false

/-! ## Shorthands -/

/-- What a shorthand surrounds: the characters, less one closing mark at their end if others stand
before it.  There must be at least one character and no blank. -/
def surrounded? (close : Char) (inner : List Char) : Option (List Char) :=
  if inner.isEmpty || inner.any Text.isBlank then none
  else if inner.getLast? == some close && 1 < inner.length then some inner.dropLast
  else some inner

/-- The event that a name is a shorthand for. -/
def eventOf? : List Char → Option (List Char)
  | '@' :: inner | '(' :: inner => surrounded? ')' inner
  | 'o' :: 'n' :: inner => surrounded? ')' inner
  | _ => none

/-- The property that a name is a shorthand for. -/
def propertyOf? : List Char → Option (List Char)
  | '.' :: inner | '[' :: inner => surrounded? ']' inner
  | _ => none

/-! ## Values -/

/-- The source that stands for the value of an attribute. -/
def sourceOf : Option Markup.Value → String
  | some (.source code) => code
  | some (.flag true) => "true"
  | some (.flag false) => "false"
  | none => "undefined"

/-- The text of a source that is one quoted text.  A single quote at the start and one at the end
are taken for double quotes; what lies between must then be the quoted text of JSON, and only blanks
may follow it. -/
def literalOf? (source : List Char) : Option String :=
  match source with
  | [] => none
  | quote :: inner =>
    if quote ≠ '"' ∧ quote ≠ '\'' then none
    else
      -- the two ends are not compared: each one may be of either kind
      let inner := if inner.getLast? == some '\'' then inner.dropLast ++ ['"'] else inner
      match Json.readQuoted inner with
      | .ok (text, rest) => if (Json.skipBlank rest.val).isEmpty then some text else none
      | .error _ => none

/-- The handler that writes a property of an element back to where it came from. -/
def writeBack (target property : String) : String :=
  "e => " ++ target ++ " = e.target." ++ property

/-- What an attribute contributes that is no shorthand. -/
def plainContent (options : Options) (a : Markup.Attribute) : Content :=
  match a.value with
  | none | some (.flag true) => .bare
  | some (.flag false) => .code "false"
  | some (.source code) =>
    match literalOf? code.toList with
    | some text =>
      .static (if a.mustEscape && options.escapeAttributes then Text.escapeAttribute text else text)
    | none => .code code

/-! ## Compilation -/

/-- The two attributes of a two-way binding: the property, and the event that writes it back. -/
def twoWay (options : Options) (source property event : String) : Attribute × Option Attribute :=
  (⟨options.propertyName property, .code source⟩, some ⟨event, .code (writeBack source property)⟩)

/-- The compiled attribute, and the companion that it brings along. -/
def classify (options : Options) (a : Markup.Attribute) : Attribute × Option Attribute :=
  let source := sourceOf a.value
  match eventOf? a.name.toList with
  | some event => (⟨options.eventName (.ofList event), .code (options.eventHandler source)⟩, none)
  | none =>
    match propertyOf? a.name.toList with
    | some inner =>
      -- a property around an event binds both ways
      match eventOf? inner with
      | some property =>
        twoWay options source (.ofList property) (options.bindingEvent (.ofList property))
      | none => (⟨options.propertyName (.ofList inner), .code source⟩, none)
    | none =>
      match a.name.toList with
      | ':' :: property => twoWay options source (.ofList property) (options.eventName "input")
      | _ => (⟨a.name, plainContent options a⟩, none)

/-- An attribute on the way: as it was written, or done. -/
inductive Entry where
  | raw (a : Markup.Attribute)
  | done (a : Attribute)

/-- How much work the entries still are. -/
def workOf : List Entry → Nat
  | [] => 0
  | .raw _ :: entries => workOf entries + 3
  | .done _ :: entries => workOf entries + 1

/-- The work of a queue is that of its parts. -/
theorem workOf_append (xs ys : List Entry) : workOf (xs ++ ys) = workOf xs + workOf ys := by
  induction xs with
  | nil => simp [workOf]
  | cons x xs ih => cases x <;> (simp [workOf, ih]; omega)

/-- Work through the entries from the front.  The companion of an entry goes to the back of the
queue. -/
def settle (options : Options) (entries : List Entry) : List Attribute :=
  match entries with
  | [] => []
  | .done a :: entries => a :: settle options entries
  | .raw a :: entries =>
    -- a companion is done from the start, so that it brings along no companion of its own
    let (compiled, companion) := classify options a
    compiled :: settle options (entries ++ (companion.map Entry.done).toList)
termination_by workOf entries
decreasing_by
  · simp [workOf]
  · cases companion <;> simp [workOf, workOf_append]

/-- Compile a list of attributes. -/
def compileAttributes (options : Options) (attributes : List Markup.Attribute) : List Attribute :=
  settle options (attributes.map Entry.raw)

end Taglit.Compiled
