import Taglit.Compiled.Lower
import Taglit.Compiled.Render

/-!
# The compiler

A template is compiled from its settings: a tree, or a parser that makes one from the source.  The
result keeps the tree and what it was compiled into, and can be written as a function or as a
module.

A parser belongs to the host program and may do more than parse.  Settings are therefore given over
a monad, in which the parser runs; compiling has no effects but those of the parser.
-/

namespace Taglit

open Taglit.Output (Format Options)

/-- What a parser is asked to parse: the source of a template, with the name of its file, and
settings for the reading of tokens and for the parsing. -/
structure ParseRequest where
  source : String
  filename : String
  lexOptions : Json
  parseOptions : Json

/-- A parser of templates: gives a tree, or the reason why it cannot. -/
abbrev TemplateParser (m : Type → Type) := ParseRequest → m (Except String Markup.Node)

/-- The settings of a template.  The file is named after the function unless it has a name of its
own, and the parser is not asked if there is a tree. -/
structure Settings (m : Type → Type) where
  source : String := ""
  tag : String := "html"
  name : String := "template"
  filename? : Option String := none
  lexOptions : Json := .object []
  parseOptions : Json := .object []
  output : Options := {}
  tree? : Option Markup.Node := none
  parser? : Option (TemplateParser m) := none

namespace Settings

variable {m : Type → Type}

/-- The name of the file. -/
def filename (settings : Settings m) : String :=
  settings.filename?.getD (settings.name ++ ".pug")

/-- What the parser is asked, if it is. -/
def request (settings : Settings m) : ParseRequest :=
  ⟨settings.source, settings.filename, settings.lexOptions, settings.parseOptions⟩

/-- The tree of the template. -/
def tree [Monad m] (settings : Settings m) : ExceptT Error m Markup.Node :=
  match settings.tree?, settings.parser? with
  | some tree, _ => pure tree
  -- the only place where a parser is run
  | none, some parse => ExceptT.mk do
    return (← parse settings.request).mapError (.unparsed settings.filename)
  | none, none => throw (.missingTree settings.filename)

/-- What the settings are, for readers. -/
def describe (settings : Settings m) : String :=
  let filename := match settings.filename? with
    | none => "None"
    | some name => "Some(" ++ Text.quote name ++ ")"
  "CompilerOptions \x7b tag: " ++ Text.quote settings.tag ++ ", name: " ++ Text.quote settings.name
    ++ ", filename: " ++ filename
    ++ ", has_ast: " ++ Options.flagText settings.tree?.isSome
    ++ ", has_parser: " ++ Options.flagText settings.parser?.isSome ++ ", .. \x7d"

end Settings

/-- A compiled template, with what it was compiled from. -/
structure Template where
  tag : String
  name : String
  filename : String
  output : Options
  tree : Markup.Node
  root : Compiled.Root

/-- Compile a template. -/
def compile {m : Type → Type} [Monad m] (settings : Settings m) : ExceptT Error m Template := do
  let tree ← settings.tree
  let root ← ExceptT.mk (pure (Compiled.compileTree tree settings.name settings.output))
  return { settings with filename := settings.filename, tree, root }

/-- Compile templates, each on its own. -/
def compileBatch (batch : List (Settings Id)) : List (Except Error Template) :=
  batch.map fun settings => (compile settings).run

namespace Template

/-- What the source of a template is written with. -/
def format (template : Template) : Format :=
  ⟨template.tag, template.output⟩

/-- The compiled function, with the given parameters. -/
def function (template : Template) (args : String) : String :=
  template.root.function template.format args

/-- The compiled function as a module. -/
def moduleSource (template : Template) (args : String) : String :=
  template.root.moduleSource template.format args

/-- The compiled function, without parameters. -/
def toSource (template : Template) : String :=
  template.root.toSource template.format

end Template

end Taglit
