/-!
# Shapes of expressions

What the grammar has to remember of an expression it has read.  An array or an object may turn out
to be the target of an assignment or a list of parameters only when the mark after it has been read,
so its shape records what it could still become.  An object with a shorthand initializer, such as
`a = 1` as a member, is *pending*: it must still become a pattern.
-/

namespace Taglit.Script

/-- What an array or an object could still become: the target of an assignment, or a pattern that
declares names.  If `pending`, it has to become one of them. -/
structure Cover where
  assignable : Bool
  bindable : Bool
  pending : Bool
  deriving DecidableEq, Repr

/-- The shape of an expression.

* A `member` is a property of an object outside of an optional chain.
* A `cover` is an array or an object.
* An expression in parentheses is `simple` if it is an identifier or a property.
* A plain assignment is `bindable` if its target could declare names.
* A `privateSearch` is a private name looked for in an object. -/
inductive Shape where
  | name
  | member
  | cover (cover : Cover)
  | parenthesized (simple : Bool)
  | assignment (bindable : Bool)
  | signed
  | logical
  | privateSearch
  | importCall
  | plain
  deriving DecidableEq, Repr

namespace Shape

/-- An identifier or a property, also in parentheses. -/
def isSimpleTarget : Shape → Bool
  | name | member => true
  | parenthesized simple => simple
  | _ => false

/-- What may stand to the left of a plain assignment. -/
def isTarget : Shape → Bool
  | cover c => c.assignable
  | s => s.isSimpleTarget

/-- What may stand as an element of an assigned pattern: a target, perhaps with a default. -/
def isTargetElement : Shape → Bool
  | assignment _ => true
  | s => s.isTarget

/-- What may stand where a name is declared. -/
def isBinding : Shape → Bool
  | name => true
  | cover c => c.bindable
  | _ => false

/-- What may stand as an element where names are declared: a binding, perhaps with a default. -/
def isBindingElement : Shape → Bool
  | assignment bindable => bindable
  | s => s.isBinding

/-- Whether the expression must still become a pattern. -/
def isPending : Shape → Bool
  | cover c => c.pending
  | _ => false

end Shape

/-- One item of a list in brackets, braces or parentheses: whether it is spread or collects the
rest, and its shape, which a hole has not. -/
structure Item where
  spread : Bool
  shape : Option Shape
  deriving DecidableEq, Repr

/-- Whether a list of items satisfies `element`, with a last spread item that satisfies `rest` and
has no comma after it. -/
def fitsPattern (element rest : Shape → Bool) (trailingComma : Bool) : List Item → Bool
  | [] => true
  | ⟨false, none⟩ :: items => fitsPattern element rest trailingComma items
  | ⟨false, some s⟩ :: items => element s && fitsPattern element rest trailingComma items
  | ⟨true, some s⟩ :: items => items.isEmpty && !trailingComma && rest s
  | ⟨true, none⟩ :: _ => false

end Taglit.Script
