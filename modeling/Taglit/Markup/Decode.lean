import Taglit.Json.Decoder
import Taglit.Markup.Basic

/-!
# Markup trees from JSON

A node is an object whose member `type` names its kind; the other members are the fields of that
kind, and members of other names are passed over.  Fields are read in the order in which they stand,
and only then is a missing one noticed.  The records inside a node (blocks, attributes, references
to files) need no `type`, and may also be written as lists of their fields.
-/

namespace Taglit.Markup

open Taglit.Json (Cause Failure mistyped)

/-! ## Scalars and attributes -/

/-- A text. -/
def textOf : Json → Except Cause String := Json.Decoder.text.ofValue

/-- A text that may be `null`. -/
def optionalTextOf : Json → Except Cause (Option String) := Json.Decoder.text.optional.ofValue

/-- A truth value. -/
def flagOf : Json → Except Cause Bool := Json.Decoder.flag.ofValue

/-- A field that must be given. -/
def required {α : Type} (name : String) : Option α → Except Cause α
  | some a => .ok a
  | none => .error (.missingField name)

/-- The value of an attribute, or `null`. -/
def valueOf : Json → Except Cause (Option Value)
  | .null => .ok none
  | .bool b => .ok (some (.flag b))
  | .text code => .ok (some (.source code))
  | _ => .error (.noVariant "AttributeValue")

/-- Read the members of an attribute; the name has not been found as long as it is `none`. -/
def attributeMembers (name : Option String) (rest : Attribute) :
    List (String × Json) → Except Cause Attribute
  | [] => do return { rest with name := ← required "name" name }
  | (key, json) :: members => do
    match key with
    | "name" => attributeMembers (some (← textOf json)) rest members
    | "val" => attributeMembers name { rest with value := ← valueOf json } members
    | "mustEscape" => attributeMembers name { rest with mustEscape := ← flagOf json } members
    | _ => attributeMembers name rest members

/-- Read the items of an attribute. -/
def attributeItems : List Json → Except Cause Attribute
  | [] => .error (.wrongLength 0 "struct Attribute with 3 elements")
  | [name] => do return ⟨← textOf name, none, false⟩
  | [name, value] => do return ⟨← textOf name, ← valueOf value, false⟩
  | name :: value :: mustEscape :: more => do
    let attr : Attribute := ⟨← textOf name, ← valueOf value, ← flagOf mustEscape⟩
    if more.isEmpty then return attr
    throw (.wrongLength (more.length + 3) "fewer elements in array")

/-- Read an attribute. -/
def Attribute.ofJson : Json → Except Cause Attribute
  | .object members => attributeMembers none { name := "" } members
  | .array items => attributeItems items
  | json => .error (mistyped json "struct Attribute")

/-- Read a list of attributes. -/
def attributesOf : Json → Except Cause (List Attribute)
  | .array items => items.mapM Attribute.ofJson
  | json => .error (mistyped json "a sequence")

/-! ## References to files -/

/-- Read the members of a reference to a file. -/
def fileMembers (path : Option String) : List (String × Json) → Except Cause String
  | [] => required "path" path
  | (key, json) :: members => do
    if key = "path" then fileMembers (some (← textOf json)) members else fileMembers path members

/-- Read a reference to a file: its path. -/
def fileOf : Json → Except Cause String
  | .object members => fileMembers none members
  | .array [] => .error (.wrongLength 0 "struct FileReference with 1 element")
  | .array (path :: more) => do
    let path ← textOf path
    if more.isEmpty then return path
    throw (.wrongLength (more.length + 1) "fewer elements in array")
  | json => .error (mistyped json "struct FileReference")

/-! ## Kinds of nodes -/

/-- The fields that have been read of a node, of whatever kind. -/
structure Fields where
  nodes : Option (List Node) := none
  val : Option String := none
  buffer : Option Bool := none
  name : Option String := none
  attrs : Option (List Attribute) := none
  block : Option (Option (List Node)) := none
  selfClosing : Option Bool := none
  obj : Option String := none
  key : Option (Option String) := none
  test : Option String := none
  consequent : Option (List Node) := none
  alternate : Option (Option Node) := none
  args : Option (Option String) := none
  call : Option Bool := none
  file : Option String := none

/-- The names of the fields of a kind; `none` for a kind that cannot be compiled. -/
def fieldsOfKind? : String → Option (List String)
  | "Block" => some ["nodes"]
  | "Doctype" => some ["val"]
  | "Tag" => some ["name", "attrs", "block", "selfClosing"]
  | "Text" => some ["val"]
  | "Code" => some ["val", "buffer"]
  | "Each" => some ["obj", "val", "key", "block"]
  | "Conditional" => some ["test", "consequent", "alternate"]
  | "Mixin" => some ["name", "args", "block", "call", "attrs"]
  | "RawInclude" => some ["file"]
  | _ => none

/-- The node of the given kind with the given fields. -/
def Fields.toNode (fields : Fields) : String → Except Cause Node
  | "Block" => .ok (.block (fields.nodes.getD []))
  | "Doctype" => .ok (.doctype (fields.val.getD ""))
  | "Tag" => do
    return .tag (← required "name" fields.name) (fields.attrs.getD []) (fields.block.getD none)
      (fields.selfClosing.getD false)
  | "Text" => do return .text (← required "val" fields.val)
  | "Code" => do return .code (← required "val" fields.val) (fields.buffer.getD false)
  | "Each" => do
    return .each (← required "obj" fields.obj) (← required "val" fields.val) (fields.key.getD none)
      (fields.block.getD none)
  | "Conditional" => do
    return .conditional (← required "test" fields.test) (← required "consequent" fields.consequent)
      (fields.alternate.getD none)
  | "Mixin" => do
    return .mixin (← required "name" fields.name) (fields.args.getD none) (fields.block.getD none)
      (fields.call.getD false) (fields.attrs.getD [])
  | "RawInclude" => do return .rawInclude (← required "file" fields.file)
  | kind => .ok (.unsupported kind)

/-! ## Nodes -/

mutual

/-- Read a node. -/
def Node.ofJson : Json → Except Cause Node
  | .object members => do
    let kind ← required "type" ((Json.lookup "type" members).bind Json.asText?)
    match fieldsOfKind? kind with
    | none => return .unsupported kind
    | some names => (← fieldsOf names {} members).toNode kind
  | _ => .error (.missingField "type")

/-- Read those members of a node that are fields of its kind. -/
def fieldsOf (names : List String) (fields : Fields) : List (String × Json) → Except Cause Fields
  | [] => .ok fields
  | (key, json) :: members =>
    if names.contains key then do fieldsOf names (← fieldOf key json fields) members
    else fieldsOf names fields members

/-- Read the field of the given name. -/
def fieldOf (key : String) (json : Json) (fields : Fields) : Except Cause Fields := do
  match key with
  | "nodes" => return { fields with nodes := some (← nodesOf json) }
  | "val" => return { fields with val := some (← textOf json) }
  | "buffer" => return { fields with buffer := some (← flagOf json) }
  | "name" => return { fields with name := some (← textOf json) }
  | "attrs" => return { fields with attrs := some (← attributesOf json) }
  | "block" =>
    match json with
    | .null => return { fields with block := some none }
    | json => return { fields with block := some (some (← blockOf json)) }
  | "selfClosing" => return { fields with selfClosing := some (← flagOf json) }
  | "obj" => return { fields with obj := some (← textOf json) }
  | "key" => return { fields with key := some (← optionalTextOf json) }
  | "test" => return { fields with test := some (← textOf json) }
  | "consequent" => return { fields with consequent := some (← blockOf json) }
  | "alternate" =>
    match json with
    | .null => return { fields with alternate := some none }
    | json => return { fields with alternate := some (some (← Node.ofJson json)) }
  | "args" => return { fields with args := some (← optionalTextOf json) }
  | "call" => return { fields with call := some (← flagOf json) }
  | "file" => return { fields with file := some (← fileOf json) }
  | _ => return fields

/-- Read a block: its nodes. -/
def blockOf : Json → Except Cause (List Node)
  | .object members => blockMembers [] members
  | .array [] => .ok []
  | .array (nodes :: more) => do
    let nodes ← nodesOf nodes
    if more.isEmpty then return nodes
    throw (.wrongLength (more.length + 1) "fewer elements in array")
  | json => .error (mistyped json "struct Block")

/-- Read the members of a block, in which the given nodes have been found. -/
def blockMembers (nodes : List Node) : List (String × Json) → Except Cause (List Node)
  | [] => .ok nodes
  | (key, json) :: members =>
    if key = "nodes" then do blockMembers (← nodesOf json) members else blockMembers nodes members

/-- Read a list of nodes. -/
def nodesOf : Json → Except Cause (List Node)
  | .array items => nodeItems items
  | json => .error (mistyped json "a sequence")

/-- Read the items of a list of nodes. -/
def nodeItems : List Json → Except Cause (List Node)
  | [] => .ok []
  | item :: items => do return (← Node.ofJson item) :: (← nodeItems items)

end

/-! ## Whole values and texts -/

/-- The tree that a value holds. -/
def Node.decode (json : Json) : Except Failure Node :=
  (Node.ofJson json).mapError fun cause => { cause }

/-- The tree that a text holds.  A text that cannot be read is refused with the place of the fault,
and a value that is no tree without one. -/
def Node.parse (source : String) : Except Failure Node := do
  let locate {α : Type} (r : Except Json.Fault α) : Except Failure α := r.mapError (·.locate source)
  -- characters after the value are noticed only once it has been decoded
  let (json, rest) ← locate (Json.readValue Json.depthLimit source.toList)
  let node ← Node.decode json
  locate (Json.readEnd rest)
  return node

end Taglit.Markup
