import Taglit.Script.Grammar.Primary

/-!
# Grammar: operators, assignments and arrow functions

Signs before and after an expression, binary operators by their strength, conditional expressions,
assignments and arrow functions.  Whether items in parentheses are parameters is seen from the arrow
after them, so they are read once as a list of items.
-/

namespace Taglit.Script

open Taglit.Script.Parser

/-! ## Signs -/

/-- Whether a token is an operator before its operand. -/
def isSign (t : Token) : Bool :=
  ["+", "-", "!", "~"].any t.isMark || ["delete", "typeof", "void"].any t.isWord

/-- Whether a token increments or decrements. -/
def isUpdate (t : Token) : Bool :=
  t.isMark "++" || t.isMark "--"

/-- An increment or decrement after an expression, on the same line. -/
def updateRest (s : Shape) : Parser Shape := do
  if isUpdate (← token) && !(← onNewLine) then
    require s.isSimpleTarget
    advance
    return .plain
  return s

/-- Whether a word or a literal follows the current token on the same line. -/
def runsOn : Parser Bool :=
  followedBy do return !(← onNewLine) && (← token).isWordOrLiteral

/-- An expression with signs before it, or an increment or decrement after it. -/
def unaryExpression (rules : Rules) : Parser Shape := do
  let t ← token
  if isSign t || (t.isWord "await" && (← read).inAsync) then
    advance
    let _ ← settled (← rules .unary)
    return .signed
  if isUpdate t then
    advance
    require (← rules .unary).isSimpleTarget
    return .plain
  if t.isWord "await" then require (!(← runsOn))
  updateRest (← leftHandSide rules)

/-! ## Binary operators -/

/-- The shape of a binary expression.  Conjunctions and disjunctions do not mix with `??`, and the
base of a power has no sign. -/
def combine (operator : Token) (left right : Shape) : Option Shape :=
  if operator.isMark "??" then
    if left == .logical || right == .logical then none else some .plain
  else if operator.isMark "&&" || operator.isMark "||" then some .logical
  else if operator.isMark "**" && left == .signed then none
  else some .plain

/-- The binary operators that bind more strongly than `strength`, and their right operands.  Powers
group from the right. -/
def binaryRest (rules : Rules) (strength : Nat) (first : Shape) : Parser Shape :=
  iterate (fun left => do
    let operator ← token
    let some power := operator.strength? | return .done left
    if operator.isWord "in" && !(← read).allowIn then return .done left
    if power < strength || (power == strength && !operator.isMark "**") then return .done left
    let _ ← settled left
    advance
    let right ← settled (← rules (.operand power))
    let some s := combine operator left right | failure
    return .more s) first

/-- An operand of a binary operator of the given strength, with the operators in it. -/
def operand (rules : Rules) (strength : Nat) : Parser Shape := do
  match ← token with
  | .privateName _ =>
    -- a private name is an operand of `in` only, and only to its left
    require ((← read).allowIn && strength < 8)
    advance
    expectWord "in"
    let object ← settled (← rules (.operand 8))
    require (object != .privateSearch)
    binaryRest rules strength .privateSearch
  | _ => binaryRest rules strength (← unaryExpression rules)

/-! ## Assignments -/

/-- What may follow an operand: an assignment or the branches of a conditional expression. -/
def assignmentRest (rules : Rules) (left : Shape) : Parser Shape := do
  let t ← token
  if t.isMark "=" then
    require left.isTarget
    advance
    let _ ← value rules
    return .assignment left.isBinding
  if compoundAssignments.any t.isMark then
    require left.isSimpleTarget
    advance
    let _ ← value rules
    return .plain
  if t.isMark "?" then
    let _ ← settled left
    advance
    let _ ← within (fun context => { context with allowIn := true }) (value rules)
    expectMark ":"
    let _ ← value rules
    return .plain
  return left

/-- The rest of an expression whose first part, without operators, has been read. -/
def continueFrom (rules : Rules) (first : Shape) : Parser Shape := do
  let s ← updateRest (← suffixes rules true first)
  assignmentRest rules (← binaryRest rules 0 s)

/-! ## Arrow functions -/

/-- Whether an arrow follows on the same line. -/
def atArrow : Parser Bool := do
  return (← atMark "=>") && !(← onNewLine)

/-- An expression that starts with a parenthesis: an arrow function, or an expression in parentheses
with what follows it. -/
def fromParenthesis (rules : Rules) : Parser Shape := do
  let items ← parenthesizedItems rules
  if ← atArrow then
    require (fitsParameters items)
    arrowRest rules false
  else continueFrom rules (← parenthesize items)

/-- An expression that starts with `async` and a parenthesis: an arrow function, or a call. -/
def fromAsyncParenthesis (rules : Rules) : Parser Shape := do
  expectWord "async"
  let items ← parenthesizedItems rules
  if ← atArrow then
    require (fitsParameters items)
    arrowRest rules true
  else
    require (!items.1.any Item.isPending)
    continueFrom rules .plain

/-- Whether a name and an arrow follow the current token on its line. -/
def beforeArrowName : Parser Bool :=
  followedBy do
    if ← onNewLine then return false
    identifier
    atArrow

/-- The word `yield` as an operator, with its operand if it has one. -/
def yieldExpression (rules : Rules) : Parser Shape := do
  expectWord "yield"
  if ← onNewLine then return .plain
  let delegates ← eatMark "*"
  let t ← token
  let ends := t == .finish || t.isWord "in" || [";", "\x7d", ")", "]", ":", ","].any t.isMark
  if delegates || !ends then
    let _ ← value rules
  return .plain

/-- An expression without a comma at its top. -/
def assignmentExpression (rules : Rules) : Parser Shape := do
  let t ← token
  if t.isWord "yield" then
    if (← read).inGenerator then return ← yieldExpression rules
    require (!(← runsOn))
  if t.isMark "(" then return ← fromParenthesis rules
  if t.isWord "async" then
    if ← beforeArrowName then
      advance
      identifier
      return ← arrowRest rules true
    if ← followedBy do return (← atMark "(") && !(← onNewLine) then
      return ← fromAsyncParenthesis rules
  -- a name alone before an arrow is a parameter
  let s ← operand rules 0
  if s == .name && (← atArrow) then arrowRest rules false
  else assignmentRest rules s

end Taglit.Script
