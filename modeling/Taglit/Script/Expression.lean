import Taglit.Script.Grammar.Operator
import Taglit.Script.Grammar.Statement
import Taglit.Text.Basic

/-!
# Is this text exactly one expression?

`isExpression` decides whether a text, less the blanks around it, is one expression of a script from
its first to its last character.  The rules of the grammar are tied together by recursion on a
bound: a rule that is entered again has read at least one character since, so twice the number of
characters is enough.
-/

namespace Taglit.Script

open Taglit.Script.Parser

/-- One reading of a rule, given the reading of the rules in it. -/
def rule (rules : Rules) : Goal → Parser Shape
  | .assignment => assignmentExpression rules
  | .operand strength => operand rules strength
  | .unary => unaryExpression rules
  | .primary => primaryExpression rules
  | .binding => do
    bindingPattern rules
    return .plain
  | .statement single => do
    statement rules single
    return .plain

/-- The reading of the rules, at most `bound` of them inside one another. -/
def readRule : Nat → Rules
  | 0, _ => failure
  | bound + 1, goal => rule (readRule bound) goal

/-- Whether the characters are one expression, from the first to the last. -/
def isExpressionChars (cs : List Char) : Bool :=
  let whole : Parser Unit := do
    let _ ← settled (← expression (readRule (2 * cs.length + 8)))
    -- not even blanks or a comment may follow the last token
    require (← get).before.isEmpty
  (whole {} (Cursor.start cs)).isSome

/-- Whether a text, less the blanks around it, is exactly one expression. -/
def isExpression (text : String) : Bool :=
  isExpressionChars (Text.trimBlank text.toList)

end Taglit.Script
