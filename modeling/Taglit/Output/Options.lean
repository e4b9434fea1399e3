import Taglit.Output.Pattern
import Taglit.Text.Escape

/-!
# Output options

Every construct of the output is written through a template of its own: a pattern, or a function
from placeholders to text.  `Options` holds the templates, with defaults for libraries that take
tagged templates.
-/

namespace Taglit.Output

/-- How one construct is written: by a pattern, or by a function of the placeholders. -/
inductive Template where
  | pattern (pattern : Pattern)
  | function (render : Placeholders Id → String)

namespace Template

/-- The template of a pattern's text. -/
def ofSource (source : String) : Template :=
  .pattern (.parse source)

/-- The template filled in. -/
def render (template : Template) (record : Placeholders Id) : String :=
  match template with
  | .pattern p => (p.render record : Id String)
  | .function f => f record

/-- The text of the template's pattern, if it has one. -/
def source? : Template → Option String
  | .pattern p => some p.source
  | .function _ => none

/-- What a template is, for readers. -/
def describe : Template → String
  | .pattern p => "Pattern(" ++ Text.quote p.source ++ ")"
  | .function _ => "Function(..)"

end Template

/-- How the constructs of the output are written.  The placeholders are

* `test`, `consequent` and `alternate` of a branch, with `otherwise` for the alternate that is not
  there;
* `name` of an event, of a property, and of the event that writes a bound property back;
* `name`, `args`, `code` and `child` of a function;
* `imports` and `function` of a module;
* `mixin`, `props`, `attrs`, `children` and `content` of the use of a mixin;
* `key`, `value`, `args`, `object`, `code` and `child` of an iteration.

If `wrapEvents`, the handler of an event is made a function of the event; if `escapeAttributes`,
quotes in attribute values are escaped. -/
structure Options where
  branch : Template := .ofSource "$test ? $consequent : $alternate"
  otherwise : String := "null"
  events : Template := .ofSource "on$name"
  properties : Template := .ofSource ".$name"
  functions : Template := .ofSource "function $name($args)\x7b$code\nreturn $child\x7d"
  modules : Template := .ofSource "$imports\nexport default $function"
  mixins : Template := .ofSource "$mixin(\x7b$props\x7d, $children)"
  bindings : Template := .ofSource "oninput"
  each : Template :=
    .ofSource "Object.entries($object).map(([$key,$value])=>\x7b$code\n return $child\x7d)"
  wrapEvents : Bool := true
  escapeAttributes : Bool := true

namespace Options

/-- The record that binds `name` alone. -/
def named (name : String) : Placeholders Id :=
  Placeholders.bind {} "name" name

/-- The attribute that listens to an event. -/
def eventName (options : Options) (name : String) : String :=
  options.events.render (named name)

/-- The attribute that sets a property. -/
def propertyName (options : Options) (name : String) : String :=
  options.properties.render (named name)

/-- The attribute that writes a bound property back. -/
def bindingEvent (options : Options) (name : String) : String :=
  options.bindings.render (named (options.eventName name))

/-- The handler of an event. -/
def eventHandler (options : Options) (body : String) : String :=
  if options.wrapEvents then "e => " ++ body else body

/-- A truth value as text. -/
def flagText (b : Bool) : String :=
  if b then "true" else "false"

/-- What the options are, for readers. -/
def describe (options : Options) : String :=
  let fields : List (String × String) :=
    [("if_", options.branch.describe), ("else_", Text.quote options.otherwise),
     ("events", options.events.describe), ("properties", options.properties.describe),
     ("functions", options.functions.describe), ("modules", options.modules.describe),
     ("mixins", options.mixins.describe), ("bindings", options.bindings.describe),
     ("each", options.each.describe), ("wrap_events", flagText options.wrapEvents),
     ("escape_attributes", flagText options.escapeAttributes)]
  "OutputOptions \x7b " ++ ", ".intercalate (fields.map fun f => f.1 ++ ": " ++ f.2) ++ " \x7d"

end Options

/-- What the output is written with: the tag of every template literal, and the options. -/
structure Format where
  tag : String
  options : Options

/-- A template literal with the given text between its backticks. -/
def Format.tagged (format : Format) (html : String) : String :=
  format.tag ++ "`" ++ html ++ "`"

end Taglit.Output
