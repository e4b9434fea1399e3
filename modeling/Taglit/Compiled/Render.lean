import Taglit.Compiled.Tree
import Taglit.Script.Expression

/-!
# The source of compiled trees

Every construct is written through its output template.  A block is written in steps: its statements
and slots first, then its template literal, and from these the forms in which a body occurs: as a
literal, as an expression that runs the statements first, and as a function.
-/

namespace Taglit.Compiled

open Taglit.Output (Format Placeholders)

/-! ## Attributes of mixins -/

/-- An attribute as a property of an object literal. -/
def Attribute.prop (a : Attribute) : String :=
  let value := match a.content with
    | .bare => "true"
    | .static text => Json.writeText text
    | .code source => source
  Text.propertyKey a.name ++ ":" ++ value

/-- An attribute as markup inside a template literal. -/
def Attribute.markup (a : Attribute) : String :=
  match a.content with
  | .bare => a.name
  | .static text => a.name ++ "=\"" ++ Text.escapeTemplate text ++ "\""
  | .code source => a.name ++ "=$\x7b" ++ source ++ "\x7d"

/-- Attributes as the properties of an object literal. -/
def propsText (attributes : List Attribute) : String :=
  ",".intercalate (attributes.map Attribute.prop)

/-- Attributes as markup. -/
def attrsText (attributes : List Attribute) : String :=
  " ".intercalate (attributes.map Attribute.markup)

/-! ## Bodies -/

/-- A statement that has been written, and whether it is a single expression. -/
structure Written where
  text : String
  isExpression : Bool

/-- A block whose statements and slots have been written.  `html` is the text between the backticks
of its template literal. -/
structure Body where
  name : String
  statements : List Written
  html : String

/-- Quasis with the sources of the slots between them.  Slots beyond the last quasi are not
shown. -/
def interleave : List String → List String → List String
  | [], _ => []
  | quasi :: quasis, [] => quasi :: interleave quasis []
  | quasi :: quasis, slot :: slots => quasi :: "$\x7b" :: slot :: "\x7d" :: interleave quasis slots

namespace Body

/-- The statements, with a separator between them. -/
def code (body : Body) (separator : String) : String :=
  separator.intercalate (body.statements.map Written.text)

/-- The template literal. -/
def tagged (format : Format) (body : Body) : String :=
  format.tagged body.html

/-- The body as one expression.  Statements that all are expressions run in a sequence before the
literal; otherwise a function runs them that is called at once. -/
def expression (format : Format) (body : Body) : String :=
  if body.statements.isEmpty then body.tagged format
  else if body.statements.all Written.isExpression then
    "(" ++ body.code "," ++ "," ++ body.tagged format ++ ")"
  else "(()=>\x7b" ++ body.code ";" ++ ";return " ++ body.tagged format ++ "\x7d)()"

/-- The body as a function with the given parameters. -/
def function (format : Format) (body : Body) (args : String) : String :=
  format.options.functions.render
    (({} : Placeholders Id)
      |>.bind "name" body.name
      |>.bind "args" args
      |>.bind "code" (body.code ";")
      |>.bind "child" (body.tagged format))

end Body

/-! ## Constructs -/

/-- A branch. -/
def branchText (format : Format) (test : String) (consequent : Body) (alternate : Option Body) :
    String :=
  format.options.branch.render
    (({} : Placeholders Id)
      |>.bind "test" test
      |>.bind "consequent" (consequent.expression format)
      |>.bind "alternate" (alternate.elim format.options.otherwise (Body.expression format)))

/-- An iteration.  A key that is not named is called `_`. -/
def eachText (format : Format) (object value : String) (key : Option String) (body : Body) :
    String :=
  let args := match key with
    | some key => value ++ "," ++ key
    | none => value
  format.options.each.render
    (({} : Placeholders Id)
      |>.bind "key" (key.getD "_")
      |>.bind "value" value
      |>.bind "args" args
      |>.bind "object" object
      |>.bindDeferred "code" (body.code ";")
      |>.bindDeferred "child" (body.tagged format))

/-- A mixin: a function if it is defined, and the template for its use if it is used. -/
def mixinText (format : Format) (role : Role) (body : Body) : String :=
  match role with
  | .definition args => body.function format (args.getD "")
  | .call attributes =>
    format.options.mixins.render
      (({} : Placeholders Id)
        |>.bind "mixin" body.name
        |>.bindDeferred "props" (propsText attributes)
        |>.bindDeferred "attrs" (attrsText attributes)
        |>.bindDeferred "children" (body.expression format)
        |>.bindDeferred "content" body.html)

/-! ## Trees -/

mutual

/-- The source of a node. -/
def Node.toSource (format : Format) : Node → String
  | .block b => (bodyOf format b).expression format
  | .each object value key b => eachText format object value key (bodyOf format b)
  | .condition test alternate b =>
    branchText format test (bodyOf format b) (alternateOf format alternate)
  | .mixin role b => mixinText format role (bodyOf format b)
  | .root _ b => (bodyOf format b).function format ""

/-- A block with its statements and slots written. -/
def bodyOf (format : Format) : Block Node → Body
  | ⟨name, code, quasis, slots⟩ =>
    ⟨name, statementsOf format code, String.join (interleave quasis (slotsOf format slots))⟩

/-- The branch that may not be there, with its statements and slots written. -/
def alternateOf (format : Format) : Option (Block Node) → Option Body
  | none => none
  | some b => some (bodyOf format b)

/-- The statements of a block, written. -/
def statementsOf (format : Format) : List (Piece Node) → List Written
  | [] => []
  | .source text :: code => ⟨text, Script.isExpression text⟩ :: statementsOf format code
  | .node n :: code => ⟨n.toSource format, false⟩ :: statementsOf format code

/-- The slots of a block, written. -/
def slotsOf (format : Format) : List (Piece Node) → List String
  | [] => []
  | .source text :: slots => text :: slotsOf format slots
  | .node n :: slots => n.toSource format :: slotsOf format slots

end

namespace Block

/-- The text between the backticks of a block's template literal. -/
def html (format : Format) (block : Block Node) : String :=
  (bodyOf format block).html

/-- The template literal of a block. -/
def tagged (format : Format) (block : Block Node) : String :=
  (bodyOf format block).tagged format

/-- A block as one expression. -/
def expression (format : Format) (block : Block Node) : String :=
  (bodyOf format block).expression format

/-- A block as a function with the given parameters. -/
def function (format : Format) (block : Block Node) (args : String) : String :=
  (bodyOf format block).function format args

end Block

namespace Root

/-- The template as a function with the given parameters. -/
def function (format : Format) (root : Root) (args : String) : String :=
  root.block.function format args

/-- The template as a function without parameters. -/
def toSource (format : Format) (root : Root) : String :=
  root.function format ""

/-- The template as a module: the lines that import what it includes, and its function. -/
def moduleSource (format : Format) (root : Root) (args : String) : String :=
  format.options.modules.render
    (({} : Placeholders Id)
      |>.bind "imports" ("\n".intercalate root.imports)
      |>.bindDeferred "function" (root.function format args))

end Root

end Taglit.Compiled
