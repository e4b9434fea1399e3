import Taglit.Script.Parser

/-!
# Grammar: rules that are entered again

The rules of the grammar refer to each other in a circle.  Each rule is written as a plain
definition that takes `rules`, the reading of the rules that may be entered again from within;
`Expression.lean` ties the knot.  This module has the rules that need nothing but `rules`: values,
lists of values, templates, patterns that declare names, parameters and bodies of functions.
-/

namespace Taglit.Script

open Taglit.Script.Parser

/-- The rules that may be entered again from within a rule.  An assignment has no comma at its top,
an operand is that of a binary operator of the given strength, and a statement that is `single` is
the body of another one and may declare nothing. -/
inductive Goal where
  | assignment
  | operand (strength : Nat)
  | unary
  | primary
  | binding
  | statement (single : Bool)

/-- The reading of the rules. -/
abbrev Rules := Goal → Parser Shape

/-- The surroundings inside brackets: nothing is special there. -/
def Context.inner (context : Context) : Context :=
  { context with allowIn := true, inDecorator := false }

/-- The surroundings of the parameters of a function. -/
def Context.ofFunction (isAsync isGenerator : Bool) : Context where
  inAsync := isAsync
  inGenerator := isGenerator

/-! ## Values -/

/-- Refuse an expression that must still become a pattern. -/
def settled (s : Shape) : Parser Shape := do
  require (!s.isPending)
  return s

/-- An expression without a comma, used as a value. -/
def value (rules : Rules) : Parser Shape := do
  settled (← rules .assignment)

/-- An expression, which may have commas at its top. -/
def expression (rules : Rules) : Parser Shape := do
  let first ← rules .assignment
  if !(← atMark ",") then return first
  let _ ← settled first
  iterate (fun () => do
    if !(← eatMark ",") then return .done ()
    let _ ← value rules
    return .more ()) ()
  return .plain

/-- An expression used as a value, in brackets of any kind. -/
def enclosedExpression (rules : Rules) : Parser Shape :=
  within Context.inner do settled (← expression rules)

/-- An expression in parentheses, as the head of a statement has it. -/
def headExpression (rules : Rules) : Parser Unit := do
  expectMark "("
  let _ ← enclosedExpression rules
  expectMark ")"

/-- One item of a list of values. -/
def item (rules : Rules) : Parser Item := do
  let spread ← eatMark "..."
  return ⟨spread, some (← rules .assignment)⟩

/-- The items between parentheses, and whether a comma stands after the last one. -/
def parenthesizedItems (rules : Rules) : Parser (List Item × Bool) := do
  expectMark "("
  within Context.inner (commaList ")" (item rules))

/-- Whether an item must still become a pattern. -/
def Item.isPending (i : Item) : Bool :=
  i.shape.any Shape.isPending

/-- The arguments of a call. -/
def arguments (rules : Rules) : Parser Unit := do
  let (items, _) ← parenthesizedItems rules
  require (!items.any Item.isPending)

/-! ## Templates and regular expressions -/

/-- A template.  A tagged one may have invalid escapes. -/
def templateLiteral (rules : Rules) (tagged : Bool) : Parser Unit := do
  let .template whole valid ← token | failure
  require (valid || tagged)
  advance
  if whole then return
  iterate (fun () => do
    let _ ← enclosedExpression rules
    require (← atMark "\x7d")
    -- what follows the brace is the text of the template again, not tokens
    let cs := (← get).current.after
    let some chunk := readChunk? (cs.length + 1) cs | failure
    require (chunk.valid || tagged)
    moveTo chunk.after
    return if chunk.last then .done () else .more ()) ()

/-- A regular expression, whose opening slash is the current token. -/
def regexLiteral : Parser Unit := do
  let cursor ← get
  -- an equals sign after the slash was read as part of the mark
  let body := if cursor.current.token.isMark "/=" then '=' :: cursor.current.after
    else cursor.current.after
  let some rest := readRegex? body | failure
  moveTo rest

/-! ## Names of properties -/

/-- The name of a property: a word, a number, a quoted text, or an expression in brackets. -/
def propertyName (rules : Rules) : Parser Unit := do
  if ← eatMark "[" then
    let _ ← within Context.inner (value rules)
    expectMark "]"
  else
    require (← token).startsPropertyName
    advance

/-- Whether the next token starts the name of a member, private names included if `privates`. -/
def startsMember (privates : Bool) : Parser Bool := do
  match ← token with
  | .privateName _ => return privates
  | t => return t.startsPropertyName

/-- Go over the word `async` if it says how the member after it works. -/
def asyncModifier (privates : Bool) : Parser Bool := do
  let follows ← followedBy do
    return !(← onNewLine) && ((← startsMember privates) || (← atMark "*"))
  if follows then eatWord "async" else return false

/-- Go over the word `get` or `set` if it says how the member after it works; the result is the
number of parameters that the member must have. -/
def accessorModifier (privates : Bool) : Parser (Option Nat) := do
  if !(← followedBy (startsMember privates)) then return none
  if ← eatWord "get" then return some 0
  if ← eatWord "set" then return some 1
  return none

/-! ## Patterns that declare names -/

/-- A pattern that declares names, perhaps with a default. -/
def bindingElement (rules : Rules) : Parser Unit := do
  let _ ← rules .binding
  if ← eatMark "=" then
    let _ ← within Context.inner (value rules)

/-- An element of a pattern in brackets. -/
def arrayBindingElement (rules : Rules) : Parser Item := do
  if ← atMark "," then return ⟨false, none⟩
  if ← eatMark "..." then
    let _ ← rules .binding
    return ⟨true, some .name⟩
  bindingElement rules
  return ⟨false, some .name⟩

/-- An element of a pattern in braces. -/
def objectBindingElement (rules : Rules) : Parser Item := do
  if ← eatMark "..." then
    identifier
    return ⟨true, some .name⟩
  let plainName ← atIdentifier
  propertyName rules
  if ← eatMark ":" then bindingElement rules
  else
    require plainName
    if ← eatMark "=" then
      let _ ← within Context.inner (value rules)
  return ⟨false, some .name⟩

/-- Items in a list of declared names: the rest comes last, with no comma after it. -/
def fitsBinding (items : List Item × Bool) : Bool :=
  fitsPattern (fun _ => true) (fun _ => true) items.2 items.1

/-- A pattern that declares names: an identifier, or elements in brackets or braces. -/
def bindingPattern (rules : Rules) : Parser Unit := do
  if ← eatMark "[" then
    require (fitsBinding (← commaList "]" (arrayBindingElement rules)))
  else if ← eatMark "\x7b" then
    require (fitsBinding (← commaList "\x7d" (objectBindingElement rules)))
  else identifier

/-! ## Functions -/

/-- A parameter of a function. -/
def parameter (rules : Rules) : Parser Item := do
  if ← eatMark "..." then
    let _ ← rules .binding
    return ⟨true, some .name⟩
  bindingElement rules
  return ⟨false, some .name⟩

/-- The parameters of a function. -/
def parameters (rules : Rules) : Parser (List Item) := do
  expectMark "("
  let items ← commaList ")" (parameter rules)
  require (fitsBinding items)
  return items.1

/-- Statements in braces. -/
def block (rules : Rules) : Parser Unit := do
  expectMark "\x7b"
  untilMark "\x7d" do
    let _ ← rules (.statement false)

/-- The body of a function. -/
def functionBody (rules : Rules) : Parser Unit :=
  within (fun context => { context.inner with inFunction := true }) (block rules)

/-- The parameters and the body of a function. -/
def functionRest (rules : Rules) (isAsync isGenerator : Bool) : Parser Unit :=
  within (fun _ => Context.ofFunction isAsync isGenerator) do
    let _ ← parameters rules
    functionBody rules

/-- The parameters and the body of a function that reads or writes a property: it must have the
given number of parameters, and collects no rest. -/
def accessorRest (rules : Rules) (arity : Nat) : Parser Unit :=
  within (fun _ => Context.ofFunction false false) do
    let items ← parameters rules
    require (items.length == arity && !items.any (·.spread))
    functionBody rules

/-- The body of an arrow function, from the arrow on. -/
def arrowRest (rules : Rules) (isAsync : Bool) : Parser Shape := do
  expectMark "=>"
  within (fun context => { context with inAsync := isAsync, inGenerator := false }) do
    if ← atMark "\x7b" then functionBody rules
    else
      let _ ← value rules
  return .plain

end Taglit.Script
