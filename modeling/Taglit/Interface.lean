import Taglit.Compiler
import Taglit.Markup.Decode
import Taglit.Output.Decode
import Taglit.Text.Basic

/-!
# The compiler for other programs

Programs in other languages hand over trees and options as JSON texts, and get source or a message
back.  The tree is read before the options.
-/

namespace Taglit.Interface

open Taglit.Json (Decoder)
open Taglit.Output (Options)

/-- The options that another program may give: the tag of every template literal, the name of the
compiled function, the name of the file, and how the constructs are written. -/
structure ClientOptions where
  tag : Option String := none
  name : Option String := none
  filename : Option String := none
  output : Option Options := none

/-- The options are a record whose fields may all be `null`. -/
def ClientOptions.decoder : Decoder ClientOptions :=
  .record "BindingOptions"
    [.of "tag" Decoder.text.optional fun s o => { o with tag := s },
     .of "name" Decoder.text.optional fun s o => { o with name := s },
     .of "filename" Decoder.text.optional fun s o => { o with filename := s },
     .of "outputOptions" Options.decoder.optional fun s o => { o with output := s }] {}

/-- Read the options from a text; no text and a blank one stand for the defaults. -/
def ClientOptions.parse (text : Option String) : Except String ClientOptions :=
  match text with
  | none => .ok {}
  | some text =>
    if (Text.trimBlank text.toList).isEmpty then .ok {}
    else (ClientOptions.decoder.parse text).mapError fun failure =>
      "Invalid compiler options: " ++ failure.message

/-- The settings of a template with the given tree. -/
def ClientOptions.settings (options : ClientOptions) (tree : Markup.Node) : Settings Id :=
  let defaults : Settings Id := {}
  { tag := options.tag.getD defaults.tag
    name := options.name.getD defaults.name
    filename? := options.filename
    output := options.output.getD {}
    tree? := some tree }

/-- Compile the tree in a text. -/
def compileText (tree : String) (options : Option String) : Except String Template := do
  let tree ← (Markup.Node.parse tree).mapError fun failure => (Error.invalidTree failure).message
  let options ← ClientOptions.parse options
  (compile (options.settings tree)).run.mapError Error.message

/-- The function that the tree in a text compiles to. -/
def functionSource (tree : String) (options : Option String) (args : String) :
    Except String String := do
  return (← compileText tree options).function args

/-- The module that the tree in a text compiles to. -/
def moduleSource (tree : String) (options : Option String) (args : String) :
    Except String String := do
  return (← compileText tree options).moduleSource args

/-- A compiler that has been set up once for many trees, with the options as they were given. -/
structure Client where
  options : Option String

/-- Set up a compiler; options that cannot be read are refused at once. -/
def Client.make (options : Option String) : Except String Client := do
  -- the text is kept, and read again with every tree
  let _ ← ClientOptions.parse options
  return ⟨options⟩

/-- The function that the tree in a text compiles to. -/
def Client.functionSource (client : Client) (tree args : String) : Except String String :=
  Interface.functionSource tree client.options args

/-- The module that the tree in a text compiles to. -/
def Client.moduleSource (client : Client) (tree args : String) : Except String String :=
  Interface.moduleSource tree client.options args

end Taglit.Interface
