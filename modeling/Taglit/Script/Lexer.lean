import Taglit.Script.Token
import Taglit.Text.Basic
import Taglit.Text.IdentifierTable

/-!
# Reading tokens of a script

Each reader takes the characters from some point on and gives back what it read together with the
characters that follow.  `readToken` skips blanks and comments and reads one token; `readChunk`
reads a chunk of a template, and `readRegex` the rest of a regular expression, at the places where
the grammar asks for them.
-/

namespace Taglit.Script

open Taglit.Text

/-! ## Characters -/

/-- The characters that end a line. -/
def isLineEnd (c : Char) : Bool :=
  c == '\n' || c == '\r' || c == '\u2028' || c == '\u2029'

/-- The characters between tokens that do not end a line. -/
def isSpace (c : Char) : Bool :=
  let n := c.toNat
  n == 0x09 || n == 0x0b || n == 0x0c || n == 0x20 || n == 0x85 || n == 0xa0 || n == 0x1680
    || (0x2000 ≤ n && n ≤ 0x200b) || n == 0x202f || n == 0x205f || n == 0x3000 || n == 0xfeff

/-- The characters that may start a name. -/
def isNameStart (c : Char) : Bool :=
  if c.toNat < 0x80 then c.isAlpha || c == '_' || c == '$' else identifierStart.contains c

/-- The characters that may continue a name. -/
def isNamePart (c : Char) : Bool :=
  if c.toNat < 0x80 then c.isAlphanum || c == '_' || c == '$'
  else identifierContinue.contains c || c == '\u200c' || c == '\u200d'

/-! ## Blanks and comments -/

/-- The characters after the end of a block comment, and whether a line ends inside the comment;
`none` if the comment never ends. -/
def skipBlockComment : List Char → Bool → Option (List Char × Bool)
  | [], _ => none
  | '*' :: '/' :: cs, newline => some (cs, newline)
  | c :: cs, newline => skipBlockComment cs (newline || isLineEnd c)

/-- Skip blanks and comments, at most `budget` of them.  The second part says whether a line ends in
what was skipped; `none` if a comment never ends. -/
def skipBetween (budget : Nat) (cs : List Char) (newline : Bool) : Option (List Char × Bool) :=
  match budget with
  | 0 => some (cs, newline)
  | budget + 1 =>
    match cs with
    | '/' :: '/' :: cs => skipBetween budget (cs.dropWhile (!isLineEnd ·)) newline
    | '/' :: '*' :: cs => do
      let (cs, newline) ← skipBlockComment cs newline
      skipBetween budget cs newline
    | c :: rest =>
      if isLineEnd c then skipBetween budget rest true
      else if isSpace c then skipBetween budget rest newline
      else some (cs, newline)
    | [] => some ([], newline)

/-! ## Escapes -/

/-- The code point of a Unicode escape, from the character after its `u`. -/
def readCodePoint? : List Char → Option (Nat × List Char)
  | '\x7b' :: cs => do
    let digits := cs.takeWhile (· != '\x7d')
    let n ← hexNumber? digits
    match cs.drop digits.length with
    | '\x7d' :: rest => if digits.isEmpty || n > 0x10ffff then none else some (n, rest)
    | _ => none
  | a :: b :: c :: d :: rest => do
    let n ← hexNumber? [a, b, c, d]
    some (n, rest)
  | _ => none

/-- Skip the part of an escape after its backslash; `none` if the escape is not valid.  Digits are
legacy escapes inside quotes and not valid inside a template, save for a zero alone. -/
def skipEscape? (inTemplate : Bool) : List Char → Option (List Char)
  | [] => none
  | 'u' :: cs => (readCodePoint? cs).map (·.2)
  | 'x' :: a :: b :: cs => (hexNumber? [a, b]).map fun _ => cs
  | 'x' :: _ => none
  | '\r' :: '\n' :: cs => some cs
  | c :: cs =>
    if inTemplate && c.isDigit && (c != '0' || cs.head?.any Char.isDigit) then none else some cs

/-! ## Names -/

/-- Read the characters of a name, at most `budget` of them, with escapes decoded.  `start` asks for
a first character; the flag of the result says whether there was an escape. -/
def readName (budget : Nat) (start : Bool) (cs : List Char) (escaped : Bool) :
    Option (List Char × Bool × List Char) :=
  let fits := if start then isNameStart else isNamePart
  match budget with
  | 0 => some ([], escaped, cs)
  | budget + 1 =>
    match cs with
    | '\\' :: 'u' :: rest => do
      let (n, rest) ← readCodePoint? rest
      let c := Char.ofNat n
      if n.isValidChar && fits c then
        let (name, _, rest) ← readName budget false rest true
        some (c :: name, true, rest)
      else none
    | '\\' :: _ => none
    | c :: rest =>
      if fits c then do
        let (name, escaped, rest) ← readName budget false rest escaped
        some (c :: name, escaped, rest)
      else if start then none else some ([], escaped, cs)
    | [] => if start then none else some ([], escaped, [])

/-! ## Numbers -/

/-- Skip digits with single underscores between them; `none` if an underscore has no digit on a
side. -/
def skipDigits? (isDigit : Char → Bool) : List Char → Option (List Char)
  | '_' :: c :: cs => if isDigit c then skipDigits? isDigit cs else none
  | '_' :: [] => none
  | c :: cs => if isDigit c then skipDigits? isDigit cs else some (c :: cs)
  | [] => some []

/-- The same where a first digit is required. -/
def skipSomeDigits? (isDigit : Char → Bool) : List Char → Option (List Char)
  | c :: cs => if isDigit c then skipDigits? isDigit cs else none
  | [] => none

/-- Skip an exponent if there is one. -/
def skipExponent? : List Char → Option (List Char)
  | 'e' :: cs | 'E' :: cs =>
    match cs with
    | '+' :: cs | '-' :: cs => skipSomeDigits? Char.isDigit cs
    | cs => skipSomeDigits? Char.isDigit cs
  | cs => some cs

/-- Skip what may follow the point of a decimal number that has digits before it. -/
def skipFraction? : List Char → Option (List Char)
  | c :: cs =>
    if c.isDigit then skipDigits? Char.isDigit cs >>= skipExponent? else skipExponent? (c :: cs)
  | [] => some []

/-- Skip a number in the given radix after its letter, with the mark of a big integer if there is
one. -/
def skipRadix? (isDigit : Char → Bool) (cs : List Char) : Option (List Char) := do
  match ← skipSomeDigits? isDigit cs with
  | 'n' :: cs => some cs
  | cs => some cs

/-- Skip a number that starts with a zero and another digit: octal in the old style, or decimal if
it has an 8 or a 9. -/
def skipLegacy? (cs : List Char) : Option (List Char) :=
  let digits := cs.takeWhile Char.isDigit
  let rest := cs.drop digits.length
  if digits.any (fun c => c == '8' || c == '9') then
    match rest with
    | '.' :: rest => skipFraction? rest
    | rest => skipExponent? rest
  else some rest

/-- Skip a number, from its first digit or point on. -/
def skipNumber? : List Char → Option (List Char)
  | '0' :: 'b' :: cs | '0' :: 'B' :: cs => skipRadix? (fun c => c == '0' || c == '1') cs
  | '0' :: 'o' :: cs | '0' :: 'O' :: cs => skipRadix? (fun c => '0' ≤ c && c ≤ '7') cs
  | '0' :: 'x' :: cs | '0' :: 'X' :: cs => skipRadix? (fun c => (hexValue? c).isSome) cs
  | '0' :: '.' :: cs => skipFraction? cs
  | '0' :: 'n' :: cs => some cs
  | '0' :: c :: cs => if c.isDigit then skipLegacy? (c :: cs) else skipExponent? (c :: cs)
  | '.' :: cs => skipSomeDigits? Char.isDigit cs >>= skipExponent?
  | cs => do
    match ← skipSomeDigits? Char.isDigit cs with
    | '.' :: cs => skipFraction? cs
    | 'n' :: cs => some cs
    | cs => skipExponent? cs

/-- Skip a number; it may not run into a name or a digit. -/
def readNumber? (cs : List Char) : Option (List Char) := do
  let rest ← skipNumber? cs
  match rest with
  | c :: _ => if c.isDigit || isNameStart c then none else some rest
  | [] => some []

/-! ## Quoted text, templates and regular expressions -/

/-- Skip a quoted text after its opening quote; at most `budget` characters and escapes. -/
def skipQuoted? (quote : Char) : Nat → List Char → Option (List Char)
  | 0, _ | _, [] => none
  | budget + 1, c :: cs =>
    if c == quote then some cs
    else if c == '\\' then skipEscape? false cs >>= skipQuoted? quote budget
    else if c == '\n' || c == '\r' then none
    else skipQuoted? quote budget cs

/-- A chunk of a template: whether the template ends with it (and not at a substitution), whether
its escapes are valid, and what follows. -/
structure Chunk where
  last : Bool
  valid : Bool
  after : List Char

/-- Read a chunk of a template, at most `budget` characters and escapes of it. -/
def readChunk? : Nat → List Char → Option Chunk
  | 0, _ | _, [] => none
  | _ + 1, '\x60' :: cs => some ⟨true, true, cs⟩
  | _ + 1, '$' :: '\x7b' :: cs => some ⟨false, true, cs⟩
  | budget + 1, '\\' :: cs =>
    match skipEscape? true cs with
    | some cs => readChunk? budget cs
    -- the escape counts against the chunk, but a tag may still be given it
    | none => (readChunk? budget (cs.drop 1)).map fun chunk => { chunk with valid := false }
  | budget + 1, _ :: cs => readChunk? budget cs

/-- Skip the body of a regular expression: a slash ends it unless it is escaped or stands in a
class. -/
def skipRegexBody? (inClass escaped : Bool) : List Char → Option (List Char)
  | [] => none
  | c :: cs =>
    -- a line end is refused even after a backslash
    if isLineEnd c then none
    else if escaped then skipRegexBody? inClass false cs
    else if c == '/' && !inClass then some cs
    else if c == '[' then skipRegexBody? true false cs
    else if c == ']' then skipRegexBody? false false cs
    else skipRegexBody? inClass (c == '\\') cs

/-- Whether a list of flags of a regular expression is valid: known ones, none twice. -/
def validFlags : List Char → Bool
  | [] => true
  | c :: cs => "dgimsuvy".toList.contains c && !cs.contains c && validFlags cs

/-- Skip a regular expression after its opening slash, flags included. -/
def readRegex? (cs : List Char) : Option (List Char) := do
  let cs ← skipRegexBody? false false cs
  let flags := cs.takeWhile fun c => c.isAlphanum || c == '_' || c == '$'
  if validFlags flags then some (cs.drop flags.length) else none

/-! ## Tokens -/

/-- The longest mark with which the text begins, and what follows it.  A question mark and a point
are two marks if a digit follows. -/
def readMark? (cs : List Char) : Option (String × List Char) :=
  let fits (m : String) : Bool :=
    m.toList.isPrefixOf cs && !(m == "?." && (cs.drop 2).head?.any Char.isDigit)
  (marks.find? fits).map fun m => (m, cs.drop m.length)

/-- A token with what lies around it: whether a line ends before it, and the characters after it. -/
structure Lexeme where
  token : Token
  newline : Bool
  after : List Char

/-- Read a quoted text after its opening quote. -/
def readQuotedToken? (quote : Char) (cs : List Char) : Option (Token × List Char) :=
  (skipQuoted? quote (cs.length + 1) cs).map fun rest =>
    (.quoted (.ofList (cs.take (cs.length - rest.length - 1))), rest)

/-- Read the token at the very start of a text that is neither empty nor starts with a blank. -/
def readSolid (cs : List Char) : Option (Token × List Char) :=
  match cs with
  | [] => some (.finish, [])
  | '"' :: rest => readQuotedToken? '"' rest
  | '\'' :: rest => readQuotedToken? '\'' rest
  | '\x60' :: rest =>
    (readChunk? (rest.length + 1) rest).map fun k => (.template k.last k.valid, k.after)
  | '#' :: rest =>
    (readName (rest.length + 1) true rest false).map fun (name, _, rest) =>
      (.privateName (.ofList name), rest)
  | c :: rest =>
    if c.isDigit || (c == '.' && rest.head?.any Char.isDigit) then (readNumber? cs).map (.number, ·)
    else if isNameStart c || c == '\\' then
      (readName (cs.length + 1) true cs false).map fun (name, escaped, rest) =>
        (.word (.ofList name) escaped, rest)
    else (readMark? cs).map fun (m, rest) => (.mark m, rest)

/-- Read the next token. -/
def readToken (cs : List Char) : Lexeme :=
  match skipBetween (cs.length + 1) cs false with
  | none => ⟨.invalid, false, cs⟩
  | some (rest, newline) =>
    match readSolid rest with
    | some (token, after) => ⟨token, newline, after⟩
    | none => ⟨.invalid, newline, rest⟩

end Taglit.Script
