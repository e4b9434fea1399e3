import Taglit.Script.Lexer
import Taglit.Script.Shape

/-!
# Parsers over a script

A parser looks at the current token of a `Cursor` and moves on, under a `Context` that says which
words are operators at this place.  Failure carries no message: all that is asked of a script is
whether it can be read.
-/

namespace Taglit.Script

/-- What the surroundings of a place decide: whether `in`, `await` and `yield` are operators,
whether a function may be left, and whether a bracket does not continue an expression, as in a
decorator. -/
structure Context where
  allowIn : Bool := true
  inAsync : Bool := true
  inGenerator : Bool := false
  inFunction : Bool := false
  inDecorator : Bool := false

/-- A place in a script: the characters after the token before, and the current token. -/
structure Cursor where
  before : List Char
  current : Lexeme

/-- The place just before the first token of the given characters. -/
def Cursor.start (cs : List Char) : Cursor :=
  ⟨cs, readToken cs⟩

/-- A parser gives a result and moves the cursor, or fails. -/
abbrev Parser := ReaderT Context (StateT Cursor Option)

namespace Parser

/-! ## Looking at the current token -/

/-- The current token. -/
def token : Parser Token := return (← get).current.token

/-- Whether a line ends before the current token. -/
def onNewLine : Parser Bool := return (← get).current.newline

/-- Whether the current token is the given mark. -/
def atMark (text : String) : Parser Bool := return (← token).isMark text

/-- Whether the current token is the given keyword. -/
def atWord (text : String) : Parser Bool := return (← token).isWord text

/-! ## Moving on -/

/-- Go on reading tokens from the given characters. -/
def moveTo (cs : List Char) : Parser Unit := set (Cursor.start cs)

/-- Go on to the next token. -/
def advance : Parser Unit := do
  moveTo (← get).current.after

/-- Succeed only if a condition holds. -/
def require (condition : Bool) : Parser Unit :=
  if condition then pure () else failure

/-- Go over the given mark if it is the current token. -/
def eatMark (text : String) : Parser Bool := do
  if ← atMark text then advance; return true
  return false

/-- Go over the given keyword if it is the current token. -/
def eatWord (text : String) : Parser Bool := do
  if ← atWord text then advance; return true
  return false

/-- Go over the given mark. -/
def expectMark (text : String) : Parser Unit := do
  require (← eatMark text)

/-- Go over the given keyword. -/
def expectWord (text : String) : Parser Unit := do
  require (← eatWord text)

/-- What a parser would find, without moving; `none` if it would fail. -/
def lookahead {α : Type} (p : Parser α) : Parser (Option α) := fun context cursor =>
  some ((p context cursor).map (·.1), cursor)

/-- Whether a test holds after the current token. -/
def followedBy (p : Parser Bool) : Parser Bool := do
  return (← lookahead (do advance; p)).getD false

/-- Run a parser in changed surroundings. -/
def within {α : Type} (change : Context → Context) (p : Parser α) : Parser α :=
  withReader change p

/-! ## Repetition -/

/-- What to do after one step of a repetition: go on from a state, or end with a result. -/
inductive Next (α β : Type) where
  | more (state : α)
  | done (result : β)

/-- Take at most `budget` steps. -/
def iterateWithin {α β : Type} (step : α → Parser (Next α β)) : Nat → α → Parser β
  | 0, _ => failure
  | budget + 1, state => do
    match ← step state with
    | .more state => iterateWithin step budget state
    | .done result => return result

/-- Take steps until one is the last.  Every step but the last reads a token, so the number of
characters left bounds the steps. -/
def iterate {α β : Type} (step : α → Parser (Next α β)) (state : α) : Parser β := do
  iterateWithin step ((← get).before.length + 2) state

/-- Items up to and with a closing mark, with commas between them.  The second part says whether a
comma stands after the last item. -/
def commaList {α : Type} (close : String) (item : Parser α) : Parser (List α × Bool) := do
  let step (found : List α) : Parser (Next (List α) (List α × Bool)) := do
    if ← eatMark close then return .done (found.reverse, false)
    if !found.isEmpty then
      expectMark ","
      if ← eatMark close then return .done (found.reverse, true)
    return .more ((← item) :: found)
  iterate step []

/-- Run a parser again and again until the given mark has been read. -/
def untilMark (close : String) (p : Parser Unit) : Parser Unit :=
  iterate (fun () => do
    if ← eatMark close then return .done ()
    p
    return .more ()) ()

/-- The end of a statement: a semicolon, or none before a closing brace, at the end of the text and
at a line's end. -/
def endStatement : Parser Unit := do
  if ← eatMark ";" then return
  let t ← token
  require (t.isMark "\x7d" || t == .finish || (← onNewLine))

/-! ## Names -/

/-- Whether a word is an identifier in the given surroundings. -/
def isIdentifier (context : Context) (text : String) : Bool :=
  !reservedWords.contains text && !(text == "await" && context.inAsync)
    && !(text == "yield" && context.inGenerator)

/-- Whether the current token is an identifier. -/
def atIdentifier : Parser Bool := do
  match ← token with
  | .word text _ => return isIdentifier (← read) text
  | _ => return false

/-- Go over an identifier. -/
def identifier : Parser Unit := do
  require (← atIdentifier)
  advance

end Parser

end Taglit.Script
