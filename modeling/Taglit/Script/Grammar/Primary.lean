import Taglit.Script.Grammar.Basic

/-!
# Grammar: expressions without operators

Arrays, objects, functions, classes, calls and properties.  Arrays and objects may turn out to be
patterns, so their shape is worked out from the shapes of their items.
-/

namespace Taglit.Script

open Taglit.Script.Parser

/-! ## Arrays and objects -/

/-- An element of an array. -/
def arrayElement (rules : Rules) : Parser Item := do
  if ← atMark "," then return ⟨false, none⟩
  item rules

/-- An array. -/
def arrayLiteral (rules : Rules) : Parser Shape := do
  expectMark "["
  let (items, comma) ← within Context.inner (commaList "]" (arrayElement rules))
  return .cover {
    assignable := fitsPattern Shape.isTargetElement Shape.isTarget comma items
    bindable := fitsPattern Shape.isBindingElement Shape.isBinding comma items
    pending := items.any Item.isPending }

/-- A member of an object, and whether the object must become a pattern for it. -/
def objectMember (rules : Rules) : Parser (Item × Bool) := do
  if ← eatMark "..." then return (⟨true, some (← value rules)⟩, false)
  let method : Item × Bool := (⟨false, some .plain⟩, false)
  let isAsync ← asyncModifier false
  let accessor ← if isAsync then pure none else accessorModifier false
  let isGenerator ← if accessor.isSome then pure false else eatMark "*"
  let shorthand ← atIdentifier
  propertyName rules
  if let some arity := accessor then
    accessorRest rules arity
    return method
  if isAsync || isGenerator || (← atMark "(") then
    functionRest rules isAsync isGenerator
    return method
  if ← eatMark ":" then
    let s ← rules .assignment
    return (⟨false, some s⟩, s.isPending)
  require shorthand
  if ← eatMark "=" then
    -- a default after a name has a meaning in patterns only
    let _ ← value rules
    return (⟨false, some (.assignment true)⟩, true)
  return (⟨false, some .name⟩, false)

/-- An object. -/
def objectLiteral (rules : Rules) : Parser Shape := do
  expectMark "\x7b"
  let (members, comma) ← within Context.inner (commaList "\x7d" (objectMember rules))
  let items := members.map (·.1)
  return .cover {
    assignable := fitsPattern Shape.isTargetElement Shape.isSimpleTarget comma items
    bindable := fitsPattern Shape.isBindingElement (· == .name) comma items
    pending := members.any (·.2) }

/-- What the items between parentheses are if no arrow follows: one expression. -/
def parenthesize (items : List Item × Bool) : Parser Shape := do
  let (items, comma) := items
  require (!items.isEmpty && !comma && !items.any (fun i => i.spread || i.isPending))
  match items with
  | [⟨_, some s⟩] => return .parenthesized s.isSimpleTarget
  | _ => return .parenthesized false

/-- Whether the items between parentheses can be the parameters of an arrow function. -/
def fitsParameters (items : List Item × Bool) : Bool :=
  fitsPattern Shape.isBindingElement Shape.isBinding items.2 items.1

/-! ## Functions -/

/-- A function, from the word `function` on. -/
def functionExpression (rules : Rules) (isAsync : Bool) : Parser Shape := do
  expectWord "function"
  let isGenerator ← eatMark "*"
  within (fun _ => Context.ofFunction isAsync isGenerator) do
    if !(← atMark "(") then identifier
  functionRest rules isAsync isGenerator
  return .plain

/-- Whether the current token is `async` and a function follows on the same line. -/
def atAsyncFunction : Parser Bool := do
  return (← atWord "async") && (← followedBy do return !(← onNewLine) && (← atWord "function"))

/-! ## Properties, calls and tagged templates -/

/-- The name of a property after a point. -/
def memberName : Parser Unit := do
  match ← token with
  | .word .. | .privateName _ => advance
  | _ => failure

/-- An expression in square brackets. -/
def computedMember (rules : Rules) : Parser Unit := do
  expectMark "["
  let _ ← enclosedExpression rules
  expectMark "]"

/-- What follows an expression without operators and belongs to it: properties, tagged templates
and, if `calls`, calls and optional chains. -/
def suffixes (rules : Rules) (calls : Bool) (first : Shape) : Parser Shape :=
  iterate (fun (s, chain) => do
    let t ← token
    -- nothing can be assigned to a property in an optional chain
    let property := if chain then Shape.plain else .member
    if t.isMark "." then
      let _ ← settled s
      advance
      memberName
      return .more (property, chain)
    else if t.isMark "[" && !(← read).inDecorator then
      let _ ← settled s
      computedMember rules
      return .more (property, chain)
    else if t.isTemplate then
      let _ ← settled s
      require (!chain)
      templateLiteral rules true
      return .more (.plain, chain)
    else if calls && t.isMark "(" then
      let _ ← settled s
      arguments rules
      return .more (.plain, chain)
    else if calls && t.isMark "?." then
      let _ ← settled s
      advance
      if ← atMark "[" then computedMember rules
      else if ← atMark "(" then arguments rules
      else memberName
      return .more (.plain, true)
    else return .done s) (first, false)

/-- An expression that can stand to the left of an operator: a primary expression with what belongs
to it. -/
def leftHandSide (rules : Rules) : Parser Shape := do
  suffixes rules true (← rules .primary)

/-- A construction, from the word `new` on. -/
def newExpression (rules : Rules) : Parser Shape := do
  expectWord "new"
  if ← eatMark "." then
    expectWord "target"
    return .plain
  let callee ← suffixes rules false (← rules .primary)
  let _ ← settled callee
  require (callee != .importCall && !(← atMark "?."))
  if ← atMark "(" then arguments rules
  return .plain

/-- A dynamic import or the meta property of the module, from the word `import` on. -/
def importExpression (rules : Rules) : Parser Shape := do
  expectWord "import"
  if ← eatMark "." then
    if ← eatWord "meta" then return .plain
    if !(← eatWord "source") then expectWord "defer"
  expectMark "("
  within Context.inner do
    let _ ← value rules
    if (← eatMark ",") && !(← atMark ")") then
      let _ ← value rules
      let _ ← eatMark ","
  expectMark ")"
  return .importCall

/-! ## Classes -/

/-- The decorators before a class or a member of it. -/
def decorators (rules : Rules) : Parser Unit :=
  iterate (fun () => do
    if !(← eatMark "@") then return .done ()
    let _ ← within (fun context => { context with inDecorator := true }) (leftHandSide rules)
    return .more ()) ()

/-- Go over the given word if it says how the member of a class after it works. -/
def memberModifier (text : String) (follows : Parser Bool) : Parser Bool := do
  if (← atWord text) && (← followedBy follows) then advance; return true
  return false

/-- The name of a member of a class; the result is its text if it is a single word or quoted. -/
def classMemberName (rules : Rules) : Parser (Option String) := do
  match ← token with
  | .privateName text =>
    require (text != "constructor")
    advance
    return none
  | .word text _ | .quoted text =>
    advance
    return some text
  | _ =>
    propertyName rules
    return none

/-- The value of a field of a class, and the end of the field. -/
def fieldRest (rules : Rules) : Parser Unit := do
  if ← eatMark "=" then
    let _ ← within (fun _ => Context.ofFunction false false) (value rules)
  endStatement

/-- A member of a class. -/
def classMember (rules : Rules) : Parser Unit := do
  if ← eatMark ";" then return
  decorators rules
  let isStatic ← memberModifier "static" do
    return (← startsMember true) || (← atMark "*") || (← atMark "\x7b")
  if isStatic && (← atMark "\x7b") then
    within (fun _ => Context.ofFunction true false) (block rules)
    return
  let isField ← memberModifier "accessor" do
    return !(← onNewLine) && (← startsMember true)
  let isAsync ← if isField then pure false else asyncModifier true
  let accessor ← if isField || isAsync then pure none else accessorModifier true
  let isGenerator ← if isField || accessor.isSome then pure false else eatMark "*"
  let name ← classMemberName rules
  require (!(isStatic && name == some "prototype"))
  let isConstructor := name == some "constructor"
  if let some arity := accessor then
    require (isStatic || !isConstructor)
    accessorRest rules arity
  else if isAsync || isGenerator then
    require (isStatic || !isConstructor)
    functionRest rules isAsync isGenerator
  else if !isField && (← atMark "(") then
    functionRest rules false false
  else
    require (!isConstructor)
    fieldRest rules

/-- A class from what it extends on. -/
def classRest (rules : Rules) : Parser Unit := do
  if ← eatWord "extends" then
    let _ ← settled (← leftHandSide rules)
  expectMark "\x7b"
  untilMark "\x7d" (classMember rules)

/-- A class, from the word `class` on. -/
def classExpression (rules : Rules) : Parser Shape := do
  expectWord "class"
  if ← atIdentifier then advance
  classRest rules
  return .plain

/-! ## Primary expressions -/

/-- An expression that starts with a word. -/
def wordExpression (rules : Rules) : String → Parser Shape
  | "function" => functionExpression rules false
  | "async" => do
    if ← atAsyncFunction then
      advance
      functionExpression rules true
    else
      advance
      return .name
  | "class" => classExpression rules
  | "new" => newExpression rules
  | "import" => importExpression rules
  | "super" => do
    advance
    require ((← atMark ".") || (← atMark "[") || (← atMark "("))
    return .plain
  | "this" | "null" | "true" | "false" => do
    advance
    return .plain
  | _ => do
    identifier
    return .name

/-- An expression without operators. -/
def primaryExpression (rules : Rules) : Parser Shape := do
  match ← token with
  | .word text false => wordExpression rules text
  | .word _ true =>
    identifier
    return .name
  | .number | .quoted _ =>
    advance
    return .plain
  | .template .. =>
    templateLiteral rules false
    return .plain
  | .mark "(" => parenthesize (← parenthesizedItems rules)
  | .mark "[" => arrayLiteral rules
  | .mark "\x7b" => objectLiteral rules
  | .mark "/" | .mark "/=" =>
    regexLiteral
    return .plain
  | .mark "@" =>
    decorators rules
    classExpression rules
  | _ => failure

end Taglit.Script
