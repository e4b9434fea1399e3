import Taglit.Markup.Decode
import Taglit.Proofs.Json.Form

/-!
# Markup trees and their JSON

`Node.form` is the form in which a markup tree is written as JSON: an object with the kind of the
node as its `type` and the fields of that kind, in which a field may be left out if it has its
default value.  The objects inside a node (blocks, attributes, references to files) have no `type`.

`decode_of_admits` says that decoding undoes writing: from every value of its form a tree is read
back as it was, in whatever order the members stand, whatever other members there are, and whichever
defaults are left out.
-/

namespace Taglit.Markup

open Taglit.Json (Cause Form Member Suits)

/-! ## Forms of trees -/

/-- A member that must be given. -/
def always (name : String) (json : Json) : Member Form :=
  ⟨name, false, .exactly json⟩

/-- A flag, which is left out if it is not set. -/
def flagMember (name : String) (flag : Bool) : Member Form :=
  ⟨name, !flag, .exactly (.bool flag)⟩

/-- A text that may not be there: then it is `null`, or left out. -/
def textMember (name : String) (text : Option String) : Member Form :=
  ⟨name, text.isNone, .exactly (text.elim .null .text)⟩

/-- The value of an attribute as JSON. -/
def Value.toJson : Value → Json
  | .flag b => .bool b
  | .source code => .text code

/-- The form of an attribute. -/
def Attribute.form (a : Attribute) : Form :=
  .record [always "name" (.text a.name),
    ⟨"val", a.value.isNone, .exactly (a.value.elim .null Value.toJson)⟩,
    flagMember "mustEscape" a.mustEscape]

/-- The member for a list of attributes. -/
def attrsMember (attributes : List Attribute) : Member Form :=
  ⟨"attrs", attributes.isEmpty, .list (attributes.map Attribute.form)⟩

/-- The form of a reference to a file. -/
def fileForm (path : String) : Form :=
  .record [always "path" (.text path)]

/-- The form of a node, given its fields. -/
def kindForm (kind : String) (members : List (Member Form)) : Form :=
  .record (always "type" (.text kind) :: members)

/-- The form of a block inside a node, given the forms of its nodes. -/
def blockForm (forms : List Form) : Form :=
  .record [⟨"nodes", forms.isEmpty, .list forms⟩]

mutual

/-- The fields of a node. -/
def Node.members : Node → List (Member Form)
  | .block nodes => [⟨"nodes", nodes.isEmpty, .list (formsOf nodes)⟩]
  | .doctype value => [⟨"val", value == "", .exactly (.text value)⟩]
  | .tag name attributes children selfClosing =>
    [always "name" (.text name), attrsMember attributes,
      ⟨"block", children.isNone, bodyForm children⟩, flagMember "selfClosing" selfClosing]
  | .text value => [always "val" (.text value)]
  | .code value buffered => [always "val" (.text value), flagMember "buffer" buffered]
  | .each object value key body =>
    [always "obj" (.text object), always "val" (.text value), textMember "key" key,
      ⟨"block", body.isNone, bodyForm body⟩]
  | .conditional test consequent alternate =>
    [always "test" (.text test), ⟨"consequent", false, blockForm (formsOf consequent)⟩,
      ⟨"alternate", alternate.isNone, alternateForm alternate⟩]
  | .mixin name args body call attributes =>
    [always "name" (.text name), textMember "args" args, ⟨"block", body.isNone, bodyForm body⟩,
      flagMember "call" call, attrsMember attributes]
  | .rawInclude path => [⟨"file", false, fileForm path⟩]
  | .unsupported _ => []

/-- The forms of a list of nodes. -/
def formsOf : List Node → List Form
  | [] => []
  | node :: nodes => kindForm node.kind node.members :: formsOf nodes

/-- The form of a body that may not be there. -/
def bodyForm : Option (List Node) → Form
  | none => .exactly .null
  | some nodes => blockForm (formsOf nodes)

/-- The form of a branch that may not be there. -/
def alternateForm : Option Node → Form
  | none => .exactly .null
  | some node => kindForm node.kind node.members

end

/-- The form of a node. -/
def Node.form (node : Node) : Form :=
  kindForm node.kind node.members

/-- The kinds that can be compiled. -/
def knownKinds : List String :=
  ["Block", "Doctype", "Tag", "Text", "Code", "Each", "Conditional", "Mixin", "RawInclude"]

mutual

/-- The kinds of all nodes in a tree that are kept by the name of their kind alone. -/
def Node.otherKinds : Node → List String
  | .block nodes => otherKindsAll nodes
  | .tag _ _ children _ => otherKindsBody children
  | .each _ _ _ body => otherKindsBody body
  | .conditional _ consequent alternate => otherKindsAll consequent ++ otherKindsAlternate alternate
  | .mixin _ _ body _ _ => otherKindsBody body
  | .unsupported kind => [kind]
  | _ => []

/-- The kinds of such nodes in a list. -/
def otherKindsAll : List Node → List String
  | [] => []
  | node :: nodes => node.otherKinds ++ otherKindsAll nodes

/-- The kinds of such nodes in a body that may not be there. -/
def otherKindsBody : Option (List Node) → List String
  | none => []
  | some nodes => otherKindsAll nodes

/-- The kinds of such nodes in a branch that may not be there. -/
def otherKindsAlternate : Option Node → List String
  | none => []
  | some node => node.otherKinds

end

/-! ## Readers as folds -/

/-- The fields of a node are read member by member. -/
theorem fieldsOf_eq_foldlM (names : List String) (fields : Fields)
    (members : List (String × Json)) :
    fieldsOf names fields members = members.foldlM
      (fun fields m => if m.1 ∈ names then fieldOf m.1 m.2 fields else .ok fields) fields := by
  induction members generalizing fields with
  | nil => rw [fieldsOf, List.foldlM_nil]; rfl
  | cons m members ih =>
      obtain ⟨key, json⟩ := m
      rw [fieldsOf, List.foldlM_cons]
      simp only [List.contains_iff_mem]
      split
      · simp only [ih]
      · exact ih fields

/-- So is a block. -/
theorem blockMembers_eq_foldlM (nodes : List Node) (members : List (String × Json)) :
    blockMembers nodes members = members.foldlM
      (fun nodes m => if m.1 = "nodes" then nodesOf m.2 else .ok nodes) nodes := by
  induction members generalizing nodes with
  | nil => rw [blockMembers, List.foldlM_nil]; rfl
  | cons m members ih =>
      obtain ⟨key, json⟩ := m
      rw [blockMembers, List.foldlM_cons]
      dsimp only
      split
      · simp only [ih]
      · exact ih nodes

/-- So is a reference to a file, whose path must be there in the end. -/
theorem fileMembers_eq_foldlM (path : Option String) (members : List (String × Json)) :
    fileMembers path members = members.foldlM
      (fun path m => if m.1 = "path" then do return some (← textOf m.2) else .ok path) path
        >>= required "path" := by
  induction members generalizing path with
  | nil => rfl
  | cons m members ih =>
      obtain ⟨key, json⟩ := m
      rw [fileMembers, List.foldlM_cons]
      dsimp only
      split
      · simp only [ih, bind_assoc, pure_bind]
      · exact ih path

/-- What one member of an attribute changes in what has been found of the attribute. -/
def attributeStep (found : Option String × Attribute) (m : String × Json) :
    Except Cause (Option String × Attribute) := do
  match m.1 with
  | "name" => return (some (← textOf m.2), found.2)
  | "val" => return (found.1, { found.2 with value := ← valueOf m.2 })
  | "mustEscape" => return (found.1, { found.2 with mustEscape := ← flagOf m.2 })
  | _ => return found

/-- So is an attribute, whose name must be there in the end. -/
theorem attributeMembers_eq_foldlM (name : Option String) (rest : Attribute)
    (members : List (String × Json)) :
    attributeMembers name rest members = members.foldlM attributeStep (name, rest) >>=
      fun found => do return { found.2 with name := ← required "name" found.1 } := by
  induction members generalizing name rest with
  | nil => rfl
  | cons m members ih =>
      obtain ⟨key, json⟩ := m
      rw [attributeMembers.eq_def, List.foldlM_cons, attributeStep]
      dsimp only
      split <;> simp only [ih, bind_assoc, pure_bind]

/-! ## The records inside nodes -/

/-- A field that is there or has its default has its value. -/
theorem ite_eq_of_or {α : Type} {p : Prop} [Decidable p] {x d : α} (h : p ∨ x = d) :
    (if p then x else d) = x := by
  split
  · rfl
  · next hp => exact (h.resolve_left hp).symm

/-- A text is read as it is. -/
@[simp] theorem textOf_text (text : String) : textOf (.text text) = .ok text := rfl

/-- A flag is read as it is. -/
@[simp] theorem flagOf_bool (flag : Bool) : flagOf (.bool flag) = .ok flag := rfl

/-- The value of an attribute is read back. -/
@[simp] theorem valueOf_toJson (value : Option Value) :
    valueOf (value.elim .null Value.toJson) = .ok value := by
  match value with
  | none => rfl
  | some (.flag _) => rfl
  | some (.source _) => rfl

/-- A text that may not be there is read back. -/
@[simp] theorem optionalTextOf_elim (text : Option String) :
    optionalTextOf (text.elim .null .text) = .ok text := by
  cases text <;> rfl

namespace Attribute

/-- What is found of an attribute in members of the given names. -/
def only (a : Attribute) (seen : List String) : Option String × Attribute :=
  (if "name" ∈ seen then some a.name else none,
    { name := ""
      value := if "val" ∈ seen then a.value else none
      mustEscape := if "mustEscape" ∈ seen then a.mustEscape else false })

/-- An attribute is read back from every value of its form. -/
theorem ofJson_of_admits (a : Attribute) {json : Json} (h : a.form.Admits json) :
    Attribute.ofJson json = .ok a := by
  obtain ⟨given, rfl, hsuits⟩ := h.exists_suits
  have hstart : (none, { name := "" }) = a.only [] := rfl
  -- each known member settles its own field, and the others change nothing
  obtain ⟨final, hfinal, hfold⟩ :
      ∃ final, _ ∧ given.foldlM attributeStep (a.only []) = .ok (a.only final) := by
    refine hsuits.exists_foldlM ?_ fun m hm seen => ?_
    · simp only [List.forall_mem_cons]
      refine ⟨?_, ?_, ?_, by simp⟩
      · rintro _ ⟨⟩ seen
        simp [attributeStep, always, only]
      · rintro _ ⟨⟩ seen
        simp [attributeStep, only]
      · rintro _ ⟨⟩ seen
        simp [attributeStep, flagMember, only]
    · simp only [always, flagMember, List.map_cons, List.map_nil, List.mem_cons, List.not_mem_nil,
        or_false, not_or] at hm
      unfold attributeStep
      split
      · next hkey => exact absurd hkey hm.1
      · next hkey => exact absurd hkey hm.2.1
      · next hkey => exact absurd hkey hm.2.2
      · rfl
  simp only [List.forall_mem_cons, always, flagMember, Bool.false_eq_true, or_false] at hfinal
  obtain ⟨hname, hvalue, hflag, -⟩ := hfinal
  have hfound : a.only final = (some a.name, { a with name := "" }) := by
    have hvalue : "val" ∈ final ∨ a.value = none := hvalue.imp_right Option.isNone_iff_eq_none.mp
    have hflag : "mustEscape" ∈ final ∨ a.mustEscape = false := by simpa using hflag
    rw [only, if_pos hname, ite_eq_of_or hvalue, ite_eq_of_or hflag]
  rw [ofJson, attributeMembers_eq_foldlM, hstart, hfold, hfound]
  rfl

end Attribute

/-- So are lists of attributes. -/
theorem attributesOf_of_admits (attributes : List Attribute) {json : Json}
    (h : (attrsMember attributes).value.Admits json) : attributesOf json = .ok attributes := by
  cases h with
  | @list _ items hitems =>
      rw [attributesOf]
      induction attributes generalizing items with
      | nil =>
          cases hitems
          rfl
      | cons a attributes ih =>
          cases hitems with
          | cons ha hrest =>
              rw [List.mapM_cons, a.ofJson_of_admits ha, ih hrest]
              rfl

/-- So are references to files. -/
theorem fileOf_of_admits (path : String) {json : Json} (h : (fileForm path).Admits json) :
    fileOf json = .ok path := by
  obtain ⟨given, rfl, hsuits⟩ := h.exists_suits
  -- the path is known once its member has been read
  let state (seen : List String) : Option String := if "path" ∈ seen then some path else none
  obtain ⟨final, hfinal, hfold⟩ : ∃ final, _ ∧ given.foldlM (fun path m =>
      if m.1 = "path" then do return some (← textOf m.2) else .ok path) (state []) =
        .ok (state final) := by
    refine hsuits.exists_foldlM ?_ fun m hm seen => ?_
    · simp only [List.forall_mem_cons]
      refine ⟨?_, by simp⟩
      rintro _ ⟨⟩ seen
      simp [always, state]
    · simp only [always, List.map_cons, List.map_nil, List.mem_singleton] at hm
      rw [if_neg hm]
  simp only [List.forall_mem_cons, always, Bool.false_eq_true, or_false] at hfinal
  have hfound : state final = some path := if_pos hfinal.1
  have hstart : none = state [] := rfl
  rw [fileOf, fileMembers_eq_foldlM, hstart, hfold, hfound]
  rfl

/-- Nodes are read back from all lists of values of their forms. -/
def ReadBack (nodes : List Node) : Prop :=
  ∀ items, List.Forall₂ Form.Admits (formsOf nodes) items → nodeItems items = .ok nodes

/-- A block is read if its nodes are. -/
theorem blockOf_of_admits {nodes : List Node} {json : Json} (hnodes : ReadBack nodes)
    (h : (blockForm (formsOf nodes)).Admits json) : blockOf json = .ok nodes := by
  obtain ⟨given, rfl, hsuits⟩ := h.exists_suits
  let state (seen : List String) : List Node := if "nodes" ∈ seen then nodes else []
  obtain ⟨final, hfinal, hfold⟩ : ∃ final, _ ∧ given.foldlM (fun nodes m =>
      if m.1 = "nodes" then nodesOf m.2 else .ok nodes) (state []) = .ok (state final) := by
    refine hsuits.exists_foldlM ?_ fun m hm seen => ?_
    · simp only [List.forall_mem_cons]
      refine ⟨?_, by simp⟩
      rintro _ ⟨⟩ seen
      next items hitems =>
        simp only [state, List.mem_cons_self, if_true]
        rw [nodesOf, hnodes items hitems]
    · simp only [List.map_cons, List.map_nil, List.mem_singleton] at hm
      rw [if_neg hm]
  -- only an empty list of nodes may be left out
  have hempty : "nodes" ∈ final ∨ nodes = [] := by
    refine (hfinal _ List.mem_cons_self).imp_right fun h => ?_
    cases nodes with
    | nil => rfl
    | cons node nodes => cases h
  have hfound : state final = nodes := ite_eq_of_or hempty
  have hstart : [] = state [] := rfl
  rw [blockOf, blockMembers_eq_foldlM, hstart, hfold, hfound]

/-! ## Nodes -/

/-- The fields of a node as they are read. -/
def Node.fields : Node → Fields
  | .block nodes => { nodes := some nodes }
  | .doctype value => { val := some value }
  | .tag name attributes children selfClosing =>
    { name := some name, attrs := some attributes, block := some children,
      selfClosing := some selfClosing }
  | .text value => { val := some value }
  | .code value buffered => { val := some value, buffer := some buffered }
  | .each object value key body =>
    { obj := some object, val := some value, key := some key, block := some body }
  | .conditional test consequent alternate =>
    { test := some test, consequent := some consequent, alternate := some alternate }
  | .mixin name args body call attributes =>
    { name := some name, args := some args, block := some body, call := some call,
      attrs := some attributes }
  | .rawInclude path => { file := some path }
  | .unsupported _ => {}

/-- The fields that are found in members of the given names. -/
def Fields.only (fields : Fields) (seen : List String) : Fields where
  nodes := if "nodes" ∈ seen then fields.nodes else none
  val := if "val" ∈ seen then fields.val else none
  buffer := if "buffer" ∈ seen then fields.buffer else none
  name := if "name" ∈ seen then fields.name else none
  attrs := if "attrs" ∈ seen then fields.attrs else none
  block := if "block" ∈ seen then fields.block else none
  selfClosing := if "selfClosing" ∈ seen then fields.selfClosing else none
  obj := if "obj" ∈ seen then fields.obj else none
  key := if "key" ∈ seen then fields.key else none
  test := if "test" ∈ seen then fields.test else none
  consequent := if "consequent" ∈ seen then fields.consequent else none
  alternate := if "alternate" ∈ seen then fields.alternate else none
  args := if "args" ∈ seen then fields.args else none
  call := if "call" ∈ seen then fields.call else none
  file := if "file" ∈ seen then fields.file else none

/-- The kind of a node is no field of it. -/
theorem Fields.only_type (fields : Fields) (seen : List String) :
    fields.only ("type" :: seen) = fields.only seen := by
  simp [only]

/-- The fields that are texts. -/
def Fields.texts (fields : Fields) : List (String × Option String) :=
  [("name", fields.name), ("val", fields.val), ("obj", fields.obj), ("test", fields.test)]

/-- The fields that are texts or `null`. -/
def Fields.optionalTexts (fields : Fields) : List (String × Option (Option String)) :=
  [("key", fields.key), ("args", fields.args)]

/-- The fields that are flags. -/
def Fields.flags (fields : Fields) : List (String × Option Bool) :=
  [("buffer", fields.buffer), ("selfClosing", fields.selfClosing), ("call", fields.call)]

/-- A member of a form is read as the field of its name. -/
def Reads (fields : Fields) (f : Member Form) : Prop :=
  ∀ json, f.value.Admits json → ∀ seen,
    fieldOf f.name json (fields.only seen) = .ok (fields.only (f.name :: seen))

section

variable {fields : Fields} {key : String} {optional : Bool}

/-- A text is read as the field of its name. -/
theorem reads_text {text : String} (h : (key, some text) ∈ fields.texts) :
    Reads fields ⟨key, optional, .exactly (.text text)⟩ := by
  simp only [Fields.texts, List.mem_cons, Prod.mk.injEq, List.not_mem_nil, or_false] at h
  rintro _ ⟨⟩ seen
  rw [fieldOf.eq_def]
  rcases h with ⟨rfl, h⟩ | ⟨rfl, h⟩ | ⟨rfl, h⟩ | ⟨rfl, h⟩ <;>
    simp [Fields.only, ← h]

/-- So is a text that may not be there. -/
theorem reads_optionalText {text : Option String} (h : (key, some text) ∈ fields.optionalTexts) :
    Reads fields (textMember key text) := by
  simp only [Fields.optionalTexts, List.mem_cons, Prod.mk.injEq, List.not_mem_nil, or_false] at h
  rintro _ ⟨⟩ seen
  rw [fieldOf.eq_def]
  rcases h with ⟨rfl, h⟩ | ⟨rfl, h⟩ <;> simp [textMember, Fields.only, ← h]

/-- So is a flag. -/
theorem reads_flag {flag : Bool} (h : (key, some flag) ∈ fields.flags) :
    Reads fields (flagMember key flag) := by
  simp only [Fields.flags, List.mem_cons, Prod.mk.injEq, List.not_mem_nil, or_false] at h
  rintro _ ⟨⟩ seen
  rw [fieldOf.eq_def]
  rcases h with ⟨rfl, h⟩ | ⟨rfl, h⟩ | ⟨rfl, h⟩ <;> simp [flagMember, Fields.only, ← h]

/-- So are attributes. -/
theorem reads_attrs {attributes : List Attribute} (h : fields.attrs = some attributes) :
    Reads fields (attrsMember attributes) := by
  intro json hjson seen
  rw [fieldOf.eq_def]
  simp [attrsMember, attributesOf_of_admits attributes hjson, Fields.only, h]

/-- So is a reference to a file. -/
theorem reads_file {path : String} (h : fields.file = some path) :
    Reads fields ⟨"file", false, fileForm path⟩ := by
  intro json hjson seen
  rw [fieldOf.eq_def]
  simp [fileOf_of_admits path hjson, Fields.only, h]

/-- So are the nodes of a block, if they are read back. -/
theorem reads_nodes {nodes : List Node} (h : fields.nodes = some nodes) (hnodes : ReadBack nodes) :
    Reads fields ⟨"nodes", optional, .list (formsOf nodes)⟩ := by
  rintro _ ⟨⟩ seen
  next items hitems =>
    rw [fieldOf.eq_def]
    simp [nodesOf, hnodes items hitems, Fields.only, h]

/-- So is a consequent, if its nodes are read back. -/
theorem reads_consequent {nodes : List Node} (h : fields.consequent = some nodes)
    (hnodes : ReadBack nodes) :
    Reads fields ⟨"consequent", optional, blockForm (formsOf nodes)⟩ := by
  intro json hjson seen
  rw [fieldOf.eq_def]
  simp [blockOf_of_admits hnodes hjson, Fields.only, h]

/-- So is a body that is not there. -/
theorem reads_block_null (h : fields.block = some none) :
    Reads fields ⟨"block", optional, .exactly .null⟩ := by
  rintro _ ⟨⟩ seen
  rw [fieldOf.eq_def]
  simp [Fields.only, h, pure, Except.pure]

/-- So is a body, if its nodes are read back. -/
theorem reads_block {nodes : List Node} (h : fields.block = some (some nodes))
    (hnodes : ReadBack nodes) : Reads fields ⟨"block", optional, blockForm (formsOf nodes)⟩ := by
  intro json hjson seen
  obtain ⟨given, rfl, -⟩ := hjson.exists_suits
  rw [fieldOf.eq_def]
  simp [blockOf_of_admits hnodes hjson, Fields.only, h]

/-- So is an alternate that is not there. -/
theorem reads_alternate_null (h : fields.alternate = some none) :
    Reads fields ⟨"alternate", optional, .exactly .null⟩ := by
  rintro _ ⟨⟩ seen
  rw [fieldOf.eq_def]
  simp [Fields.only, h, pure, Except.pure]

/-- So is an alternate, if it is read back. -/
theorem reads_alternate {node : Node} (h : fields.alternate = some (some node))
    (hnode : ∀ json, node.form.Admits json → Node.ofJson json = .ok node) :
    Reads fields ⟨"alternate", optional, node.form⟩ := by
  intro json hjson seen
  have hread := hnode json hjson
  obtain ⟨given, rfl, -⟩ := hjson.exists_suits
  rw [fieldOf.eq_def]
  simp [hread, Fields.only, h]

end

/-- A field that is there or has its default is read with its value. -/
theorem getD_ite {α : Type} {p : Prop} [Decidable p] {x d : α} (h : p ∨ x = d) :
    (if p then some x else none).getD d = x := by
  rw [apply_ite (Option.getD · d)]
  exact ite_eq_of_or h

/-- A field that must be there, and is, is read with its value. -/
theorem required_ite {α : Type} {p : Prop} [Decidable p] {name : String} {x : α} (h : p) :
    required name (if p then some x else none) = .ok x := by
  rw [if_pos h]
  rfl

/-- Every kind that can be compiled has fields. -/
theorem fieldsOfKind?_ne_nil (kind : String) : fieldsOfKind? kind ≠ some [] := by
  unfold fieldsOfKind?
  split <;> simp

/-- The fields of a node make up the node, also if fields that have their default are not there. -/
theorem Node.toNode_only {node : Node} {seen : List String}
    (hfields : fieldsOfKind? node.kind = some (node.members.map Member.name))
    (hseen : ∀ f ∈ node.members, f.name ∈ seen ∨ f.optional = true) :
    (node.fields.only seen).toNode node.kind = .ok node := by
  cases node
  case unsupported kind => exact absurd hfields (fieldsOfKind?_ne_nil kind)
  -- the hypothesis says of each field that it is there, or has its default if it may be left out
  all_goals
    simp only [members, always, attrsMember, flagMember, textMember, List.forall_mem_cons,
      Bool.false_eq_true, or_false, List.isEmpty_iff, Option.isNone_iff_eq_none, Bool.not_eq_true',
      beq_iff_eq] at hseen
    simp only [kind, Fields.toNode, fields, Fields.only]
  case block => rw [getD_ite hseen.1]
  case doctype => rw [getD_ite hseen.1]
  case tag =>
    obtain ⟨hname, hattrs, hblock, hflag, -⟩ := hseen
    rw [required_ite hname, getD_ite hattrs, getD_ite hblock, getD_ite hflag]
    rfl
  case text =>
    rw [required_ite hseen.1]
    rfl
  case code =>
    obtain ⟨hval, hflag, -⟩ := hseen
    rw [required_ite hval, getD_ite hflag]
    rfl
  case each =>
    obtain ⟨hobj, hval, hkey, hblock, -⟩ := hseen
    rw [required_ite hobj, required_ite hval, getD_ite hkey, getD_ite hblock]
    rfl
  case conditional =>
    obtain ⟨htest, hconsequent, halternate, -⟩ := hseen
    rw [required_ite htest, required_ite hconsequent, getD_ite halternate]
    rfl
  case mixin =>
    obtain ⟨hname, hargs, hblock, hflag, hattrs, -⟩ := hseen
    rw [required_ite hname, getD_ite hargs, getD_ite hblock, getD_ite hflag, getD_ite hattrs]
    rfl
  case rawInclude =>
    rw [required_ite hseen.1]
    rfl

/-- The kind is not among the fields of any kind. -/
theorem type_not_mem_fieldsOfKind? {kind : String} {names : List String}
    (h : fieldsOfKind? kind = some names) : "type" ∉ names := by
  unfold fieldsOfKind? at h
  split at h <;> simp only [Option.some.injEq, reduceCtorEq] at h <;> subst h <;> decide

/-- No fields are known of a kind that cannot be compiled. -/
theorem fieldsOfKind?_eq_none {kind : String} (h : kind ∉ knownKinds) :
    fieldsOfKind? kind = none := by
  unfold fieldsOfKind?
  split <;> first | rfl | exact absurd (by decide) h

/-- The kind of a node is found in every value of its form. -/
theorem lookup_type {kind : String} {members : List (Member Form)} {given : List (String × Json)}
    (hmembers : "type" ∉ members.map Member.name)
    (h : Suits (always "type" (.text kind) :: members) given) :
    Json.lookup "type" given = some (.text kind) := by
  refine Json.lookup_eq_some ?_ fun m hm hname => ?_
  · exact (h.present _ List.mem_cons_self).resolve_right (by simp [always])
  · obtain ⟨f, hf, hfm, hvalue⟩ := h.known m hm (hname ▸ List.mem_cons_self)
    rcases List.mem_cons.mp hf with rfl | hf
    · exact hvalue.eq_of_exactly
    · exact absurd (List.mem_map_of_mem hf) (hfm.trans hname ▸ hmembers)

/-- An object whose kind is known is read by that kind. -/
theorem Node.ofJson_of_lookup {kind : String} {members : List (String × Json)}
    (htype : Json.lookup "type" members = some (.text kind)) :
    Node.ofJson (.object members) = match fieldsOfKind? kind with
      | none => .ok (.unsupported kind)
      | some names => fieldsOf names {} members >>= (·.toNode kind) := by
  rw [Node.ofJson, htype]
  rfl

/-- Of a node of another kind, nothing but the kind is read. -/
theorem Node.ofJson_unsupported {kind : String} {members : List (String × Json)}
    (hkind : kind ∉ knownKinds) (htype : Json.lookup "type" members = some (.text kind)) :
    Node.ofJson (.object members) = .ok (.unsupported kind) := by
  rw [Node.ofJson_of_lookup htype, fieldsOfKind?_eq_none hkind]

/-- The fields that are read are those that the form of the node has. -/
theorem Node.fieldsOfKind?_kind (node : Node) : (∃ kind, node = .unsupported kind) ∨
    fieldsOfKind? node.kind = some (node.members.map Member.name) := by
  cases node with
  | unsupported kind => exact .inl ⟨kind, rfl⟩
  | _ => exact .inr rfl

/-- A node of a kind that can be compiled is read if its fields are. -/
theorem Node.ofJson_of_reads {node : Node} {json : Json}
    (hkind : ∀ kind, node = .unsupported kind → kind ∉ knownKinds)
    (hreads : ∀ f ∈ node.members, Reads node.fields f) (h : node.form.Admits json) :
    Node.ofJson json = .ok node := by
  obtain ⟨given, rfl, hsuits⟩ := h.exists_suits
  rcases node.fieldsOfKind?_kind with ⟨kind, rfl⟩ | hfields
  · have htype := lookup_type (by simp [Node.members]) hsuits
    exact Node.ofJson_unsupported (hkind kind rfl) htype
  -- the kind is not a field, so that reading the fields passes over it
  have hnames := type_not_mem_fieldsOfKind? hfields
  obtain ⟨final, hfinal, hfold⟩ : ∃ final, _ ∧ given.foldlM (fun fields m =>
      if m.1 ∈ node.members.map Member.name then fieldOf m.1 m.2 fields else .ok fields)
        (node.fields.only []) = .ok (node.fields.only final) := by
    refine hsuits.exists_foldlM
      (List.forall_mem_cons.mpr ⟨fun json _ seen => ?_, fun f hf json hjson seen => ?_⟩)
      fun m hm seen => ?_
    · exact (if_neg hnames).trans (congrArg Except.ok (node.fields.only_type seen).symm)
    · rw [if_pos (List.mem_map_of_mem hf)]
      exact hreads f hf json hjson seen
    · rw [if_neg fun hname => hm (List.mem_cons_of_mem _ hname)]
  have hstart : ({} : Fields) = node.fields.only [] := rfl
  have hnode := Node.toNode_only hfields (List.forall_mem_cons.mp hfinal).2
  rw [Node.ofJson_of_lookup (lookup_type hnames hsuits), hfields]
  dsimp only
  rw [fieldsOf_eq_foldlM, hstart, hfold]
  exact hnode

/-! ## Trees -/

/-- If no known kind is kept by its name alone, that of the node itself is not. -/
theorem Node.not_mem_knownKinds {node : Node} (h : ∀ kind ∈ node.otherKinds, kind ∉ knownKinds)
    (kind : String) (hnode : node = .unsupported kind) : kind ∉ knownKinds := by
  subst hnode
  exact h kind List.mem_cons_self

mutual

/-- The members of a node are read as its fields. -/
theorem Node.reads_members (node : Node) (hkinds : ∀ kind ∈ node.otherKinds, kind ∉ knownKinds) :
    ∀ f ∈ node.members, Reads node.fields f := by
  match node with
  | .block nodes =>
      simp only [Node.members, List.forall_mem_cons]
      exact ⟨reads_nodes rfl (readBack_of_otherKinds nodes hkinds), List.forall_mem_nil _⟩
  | .doctype value =>
      simp only [Node.members, List.forall_mem_cons]
      exact ⟨reads_text (by simp [Fields.texts, Node.fields]), List.forall_mem_nil _⟩
  | .tag name attributes children selfClosing =>
      simp only [Node.members, List.forall_mem_cons]
      exact ⟨reads_text (by simp [Fields.texts, Node.fields]), reads_attrs rfl,
        reads_body children hkinds rfl,
        reads_flag (by simp [Fields.flags, Node.fields]), List.forall_mem_nil _⟩
  | .text value =>
      simp only [Node.members, List.forall_mem_cons]
      exact ⟨reads_text (by simp [Fields.texts, Node.fields]), List.forall_mem_nil _⟩
  | .code value buffered =>
      simp only [Node.members, List.forall_mem_cons]
      exact ⟨reads_text (by simp [Fields.texts, Node.fields]),
        reads_flag (by simp [Fields.flags, Node.fields]), List.forall_mem_nil _⟩
  | .each object value key body =>
      simp only [Node.members, List.forall_mem_cons]
      exact ⟨reads_text (by simp [Fields.texts, Node.fields]),
        reads_text (by simp [Fields.texts, Node.fields]),
        reads_optionalText (by simp [Fields.optionalTexts, Node.fields]),
        reads_body body hkinds rfl, List.forall_mem_nil _⟩
  | .conditional test consequent alternate =>
      -- each branch has its own kinds
      obtain ⟨hconsequent, halternate⟩ := List.forall_mem_append.mp hkinds
      simp only [Node.members, List.forall_mem_cons]
      exact ⟨reads_text (by simp [Fields.texts, Node.fields]),
        reads_consequent rfl (readBack_of_otherKinds consequent hconsequent),
        reads_branch alternate halternate rfl, List.forall_mem_nil _⟩
  | .mixin name args body call attributes =>
      simp only [Node.members, List.forall_mem_cons]
      exact ⟨reads_text (by simp [Fields.texts, Node.fields]),
        reads_optionalText (by simp [Fields.optionalTexts, Node.fields]),
        reads_body body hkinds rfl,
        reads_flag (by simp [Fields.flags, Node.fields]), reads_attrs rfl, List.forall_mem_nil _⟩
  | .rawInclude path =>
      simp only [Node.members, List.forall_mem_cons]
      exact ⟨reads_file rfl, List.forall_mem_nil _⟩
  | .unsupported kind =>
      rw [Node.members]
      exact List.forall_mem_nil _

/-- The same for a list of nodes, which is read back. -/
theorem readBack_of_otherKinds (nodes : List Node)
    (hkinds : ∀ kind ∈ otherKindsAll nodes, kind ∉ knownKinds) : ReadBack nodes := by
  intro items h
  match nodes, h with
  | [], .nil => rw [nodeItems]
  | node :: nodes, .cons hnode hrest =>
      obtain ⟨hkind, hkinds⟩ := List.forall_mem_append.mp hkinds
      have hread :=
        Node.ofJson_of_reads (Node.not_mem_knownKinds hkind) (Node.reads_members node hkind) hnode
      rw [nodeItems, hread, readBack_of_otherKinds nodes hkinds _ hrest]
      rfl

/-- The same for a body that may not be there. -/
theorem reads_body (body : Option (List Node))
    (hkinds : ∀ kind ∈ otherKindsBody body, kind ∉ knownKinds) {fields : Fields} {optional : Bool}
    (h : fields.block = some body) : Reads fields ⟨"block", optional, bodyForm body⟩ := by
  match body with
  | none => exact reads_block_null h
  | some nodes => exact reads_block h (readBack_of_otherKinds nodes hkinds)

/-- The same for a branch that may not be there. -/
theorem reads_branch (branch : Option Node)
    (hkinds : ∀ kind ∈ otherKindsAlternate branch, kind ∉ knownKinds) {fields : Fields}
    {optional : Bool} (h : fields.alternate = some branch) :
    Reads fields ⟨"alternate", optional, alternateForm branch⟩ := by
  match branch with
  | none => exact reads_alternate_null h
  | some node =>
      exact reads_alternate h fun json =>
        Node.ofJson_of_reads (Node.not_mem_knownKinds hkinds) (Node.reads_members node hkinds)

end

/-- Decoding undoes writing.  A tree in which no kind that can be compiled stands as one that cannot
is read back from every value of its form.  Its canonical value is one, and of a node that cannot be
compiled nothing but the kind matters. -/
theorem Node.decode_of_admits (node : Node) (hkinds : ∀ kind ∈ node.otherKinds, kind ∉ knownKinds) :
    node.form.Admits node.form.canonical ∧
    (∀ json, node.form.Admits json → Node.decode json = .ok node) ∧
      ∀ kind ∉ knownKinds, ∀ members, Json.lookup "type" members = some (.text kind) →
        Node.decode (.object members) = .ok (.unsupported kind) := by
  refine ⟨Form.admits_canonical _, fun json h => ?_, fun kind hkind members htype => ?_⟩
  · rw [Node.decode,
      Node.ofJson_of_reads (Node.not_mem_knownKinds hkinds) (node.reads_members hkinds) h]
    rfl
  · rw [Node.decode, Node.ofJson_unsupported hkind htype]
    rfl

/-- The canonical value of a tag has every member, those with default values included. -/
example : (Node.tag "a" [⟨"b", none, true⟩] (some []) false).form.canonical =
    .object [("type", .text "Tag"), ("name", .text "a"),
      ("attrs", .array [.object [("name", .text "b"), ("val", .null), ("mustEscape", .bool true)]]),
      ("block", .object [("nodes", .array [])]), ("selfClosing", .bool false)] := rfl

/-- A tag is read back from an object that names its kind second, has a member of its own, and
leaves out the attributes and the flag; its text names its kind last, and the comment after it is
kept by its kind alone. -/
theorem Node.decode_of_admits_link :
    Node.decode (.object [("line", .null), ("type", .text "Tag"), ("name", .text "a"),
        ("block", .object [("nodes", .array [.object [("val", .text "x"), ("type", .text "Text")],
          .object [("type", .text "Comment"), ("val", .bool true)]])])]) =
      .ok (.tag "a" [] (some [.text "x", .unsupported "Comment"]) false) := by
  have htext : (Node.text "x").form.Admits (.object [("val", .text "x"), ("type", .text "Text")]) :=
    .record (.given (.exactly _) (.given (.exactly _) .nil)) (by simp) (.swap _ _ _)
  have hcomment : (Node.unsupported "Comment").form.Admits
      (.object [("type", .text "Comment"), ("val", .bool true)]) :=
    .record (.given (.exactly _) .nil) (by simp [always, Node.members]) (.refl _)
  have hblock : (bodyForm (some [.text "x", .unsupported "Comment"])).Admits
      (.object [("nodes", .array [.object [("val", .text "x"), ("type", .text "Text")],
        .object [("type", .text "Comment"), ("val", .bool true)]])]) :=
    .record (.given (.list (.cons htext (.cons hcomment .nil))) .nil) (by simp) (.refl _)
  -- the member `line` is no field of a tag
  have hother : ∀ m ∈ [("line", Json.null)],
      m.1 ∉ ["type", "name", "attrs", "block", "selfClosing"] := by simp
  refine (Node.decode_of_admits (.tag "a" [] (some [.text "x", .unsupported "Comment"]) false)
    (by decide)).2.1 _ (.record ?_ hother (List.perm_append_singleton _ _).symm)
  exact .given (.exactly _) (.given (.exactly _) (.omitted (.given hblock (.omitted .nil))))

end Taglit.Markup
