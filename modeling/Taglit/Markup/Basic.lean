/-!
# Markup trees

The tree that a template is parsed into: tags with attributes, text, code, iterations, branches,
mixins and raw includes.  Kinds of nodes that cannot be compiled are kept by name, so that they can
be refused by name.
-/

namespace Taglit.Markup

/-- The value of an attribute as it was written: a flag, which is `true` for an attribute without a
value, or the source of an expression. -/
inductive Value where
  | flag (b : Bool)
  | source (code : String)
  deriving DecidableEq, Repr

/-- An attribute of a tag or of the use of a mixin.  Quotes in a static value are escaped only if
`mustEscape`. -/
structure Attribute where
  name : String
  value : Option Value := none
  mustEscape : Bool := false
  deriving DecidableEq, Repr

/-- A node of a markup tree.

* A tag that is `selfClosing` has no end tag and shows no children.
* Code that is `buffered` is an expression whose value is shown, and else a statement.
* A mixin is used if `call`, and else defined.
* A raw include is a file that is shown as it is.
* An `unsupported` node is of a kind that cannot be compiled. -/
inductive Node where
  | block (nodes : List Node)
  | doctype (value : String)
  | tag (name : String) (attributes : List Attribute) (children : Option (List Node))
    (selfClosing : Bool)
  | text (value : String)
  | code (value : String) (buffered : Bool)
  | each (object value : String) (key : Option String) (body : Option (List Node))
  | conditional (test : String) (consequent : List Node) (alternate : Option Node)
  | mixin (name : String) (args : Option String) (body : Option (List Node)) (call : Bool)
      (attributes : List Attribute)
  | rawInclude (path : String)
  | unsupported (kind : String)

namespace Attribute

/-- An attribute with a value. -/
def ofSource (name code : String) : Attribute :=
  ⟨name, some (.source code), true⟩

/-- An attribute without a value. -/
def bare (name : String) : Attribute :=
  ⟨name, some (.flag true), false⟩

/-- The attribute with its quotes left as they are. -/
def unescaped (attr : Attribute) : Attribute :=
  { attr with mustEscape := false }

end Attribute

/-- The name of a node's kind. -/
def Node.kind : Node → String
  | block _ => "Block"
  | doctype _ => "Doctype"
  | tag .. => "Tag"
  | text _ => "Text"
  | code .. => "Code"
  | each .. => "Each"
  | conditional .. => "Conditional"
  | mixin .. => "Mixin"
  | rawInclude _ => "RawInclude"
  | unsupported kind => kind

end Taglit.Markup
