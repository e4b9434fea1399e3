import Taglit.Script.Grammar.Primary

/-!
# Grammar: statements

The statements that may stand in the body of a function.  Names are not resolved: that a label
exists or that a name is declared once is not asked.
-/

namespace Taglit.Script

open Taglit.Script.Parser

/-! ## Declarations -/

/-- The ways to declare variables: by `var` or `let`, by `const` with a value, and by `using` with a
value and a plain name. -/
inductive Declaration where
  | variable
  | constant
  | resource
  deriving DecidableEq

/-- Declared variables with commas between them.  The result says whether each has the value that it
must have when no loop gives it one. -/
def declarators (rules : Rules) (kind : Declaration) : Parser Bool :=
  iterate (fun complete => do
    let plainName ← atIdentifier
    require (plainName || kind != .resource)
    let _ ← rules .binding
    let hasValue ← eatMark "="
    if hasValue then
      let _ ← value rules
    let complete := complete && (hasValue || (plainName && kind == .variable))
    return if ← eatMark "," then .more complete else .done complete) true

/-- Whether the current token is `let` and starts a declaration, and not an expression. -/
def atLetDeclaration (single : Bool) : Parser Bool := do
  if !(← atWord "let") then return false
  followedBy do
    let t ← token
    let goesOn := t.strength?.isSome || ["=", ".", "(", ";"].any t.isMark
      || compoundAssignments.any t.isMark
    return !goesOn && (!single || t.isMark "[")

/-- Whether the current token is `using` and starts a declaration. -/
def atUsingDeclaration : Parser Bool := do
  return (← atWord "using") && (← followedBy do return (← atIdentifier) && !(← onNewLine))

/-- Go over the words that start a declaration of variables, if there are such. -/
def declarationHead (single : Bool) : Parser (Option Declaration) := do
  if ← eatWord "var" then return some .variable
  if (← atWord "const") || (← atLetDeclaration single) then
    require (!single)
    let kind := if ← atWord "const" then Declaration.constant else .variable
    advance
    return some kind
  if ← atUsingDeclaration then
    require (!single)
    advance
    return some .resource
  if (← atWord "await") && (← read).inAsync
      && (← followedBy do return !(← onNewLine) && (← atUsingDeclaration)) then
    require (!single)
    advance
    advance
    return some .resource
  return none

/-- A function with a name. -/
def functionDeclaration (rules : Rules) (single isAsync : Bool) : Parser Unit := do
  expectWord "function"
  let isGenerator ← eatMark "*"
  require (!(single && (isAsync || isGenerator)))
  identifier
  functionRest rules isAsync isGenerator

/-- A class with a name. -/
def classDeclaration (rules : Rules) : Parser Unit := do
  expectWord "class"
  identifier
  classRest rules

/-! ## Loops -/

/-- The body of a statement. -/
def body (rules : Rules) : Parser Unit := do
  let _ ← rules (.statement true)

/-- The rest of a loop with three parts, after the first semicolon. -/
def loopRest (rules : Rules) : Parser Unit := do
  if !(← eatMark ";") then
    let _ ← enclosedExpression rules
    expectMark ";"
  if !(← eatMark ")") then
    let _ ← enclosedExpression rules
    expectMark ")"
  body rules

/-- The rest of a loop over the keys of an object or over a sequence, if there is one. -/
def iterationRest (rules : Rules) (isAwait : Bool) : Parser Bool := do
  if ← eatWord "of" then
    let _ ← within Context.inner (value rules)
  else if !isAwait && (← atWord "in") then
    advance
    let _ ← enclosedExpression rules
  else return false
  expectMark ")"
  body rules
  return true

/-- A loop, from after the word `for` on. -/
def forRest (rules : Rules) : Parser Unit := do
  let isAwait ← if (← read).inAsync then eatWord "await" else pure false
  expectMark "("
  if ← eatMark ";" then
    require (!isAwait)
    loopRest rules
  else if let some kind ← declarationHead false then
    let complete ← within (fun context => { context with allowIn := false })
      (declarators rules kind)
    if ← iterationRest rules isAwait then return
    -- no loop gives the names a value, so that they must have their own
    require (complete && !isAwait)
    expectMark ";"
    loopRest rules
  else
    let startsLet ← atWord "let"
    let startsAsync ← atWord "async"
    let target ← within (fun context => { context with allowIn := false }) (expression rules)
    if ← atWord "of" then
      require (!startsLet && !(startsAsync && target == .name && !isAwait))
    if (← atWord "of") || (← atWord "in") then require target.isTarget
    if ← iterationRest rules isAwait then return
    let _ ← settled target
    require (!isAwait)
    expectMark ";"
    loopRest rules

/-! ## Branches -/

/-- The statements of a case, up to the next case or the end of the switch. -/
def caseBody (rules : Rules) : Parser Unit :=
  iterate (fun () => do
    if (← atWord "case") || (← atWord "default") || (← atMark "\x7d") then return .done ()
    let _ ← rules (.statement false)
    return .more ()) ()

/-- A case of a switch. -/
def switchCase (rules : Rules) : Parser Unit := do
  if ← eatWord "case" then
    let _ ← enclosedExpression rules
  else expectWord "default"
  expectMark ":"
  caseBody rules

/-- A guarded block, from after the word `try` on. -/
def tryRest (rules : Rules) : Parser Unit := do
  block rules
  let caught ← eatWord "catch"
  if caught then
    if ← eatMark "(" then
      let _ ← rules .binding
      expectMark ")"
    block rules
  let finished ← eatWord "finally"
  if finished then block rules
  require (caught || finished)

/-! ## Statements -/

/-- An expression as a statement, or a label and the statement that it marks. -/
def expressionStatement (rules : Rules) : Parser Unit := do
  let s ← expression rules
  if s == .name && (← atMark ":") then
    advance
    body rules
  else
    let _ ← settled s
    endStatement

/-- A jump to a label, from after its word on. -/
def jumpRest : Parser Unit := do
  if (← atIdentifier) && !(← onNewLine) then advance
  endStatement

/-- A statement that starts with a keyword. -/
def wordStatement (rules : Rules) (single : Bool) : String → Parser Unit
  | "if" => do
    advance
    headExpression rules
    body rules
    if ← eatWord "else" then body rules
  | "for" => do
    advance
    forRest rules
  | "while" | "with" => do
    advance
    headExpression rules
    body rules
  | "do" => do
    advance
    body rules
    expectWord "while"
    headExpression rules
    let _ ← eatMark ";"
  | "continue" | "break" => do
    advance
    jumpRest
  | "return" => do
    require (← read).inFunction
    advance
    let t ← token
    if !((← onNewLine) || t == .finish || t.isMark ";" || t.isMark "\x7d") then
      let _ ← settled (← expression rules)
    endStatement
  | "throw" => do
    advance
    require (!(← onNewLine))
    let _ ← settled (← expression rules)
    endStatement
  | "switch" => do
    advance
    headExpression rules
    expectMark "\x7b"
    untilMark "\x7d" (switchCase rules)
  | "try" => do
    advance
    tryRest rules
  | "debugger" => do
    advance
    endStatement
  | "function" => functionDeclaration rules single false
  | "class" => do
    require (!single)
    classDeclaration rules
  | _ => do
    if ← atAsyncFunction then
      advance
      functionDeclaration rules single true
    else if let some kind ← declarationHead single then
      require (← declarators rules kind)
      endStatement
    else expressionStatement rules

/-- A statement. -/
def statement (rules : Rules) (single : Bool) : Parser Unit := do
  match ← token with
  | .mark "\x7b" => block rules
  | .mark ";" => advance
  | .mark "@" =>
    require (!single)
    decorators rules
    classDeclaration rules
  | .word text false => wordStatement rules single text
  | _ => expressionStatement rules

end Taglit.Script
