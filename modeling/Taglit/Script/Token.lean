/-!
# Tokens of a script

The words and marks from which the expressions and statements of a script (ECMAScript, read as a
module) are built.  A name carries whether it was spelled with an escape, because an escaped word is
never a keyword.  A slash is always read as a mark: whether it opens a regular expression is for the
grammar to say, which then reads it again.
-/

namespace Taglit.Script

/-- One token.

* A word is a name or a keyword, `escaped` if a character of it was written as an escape.
* A private name comes without its number sign, and a quoted text without its quotes.
* A template is its first chunk, with whether that is the whole template and whether its escapes are
  valid. -/
inductive Token where
  | word (text : String) (escaped : Bool)
  | privateName (text : String)
  | number
  | quoted (text : String)
  | template (whole valid : Bool)
  | mark (text : String)
  | finish
  | invalid
  deriving DecidableEq, Repr

/-- The words that never are identifiers. -/
def reservedWords : List String :=
  ["break", "case", "catch", "class", "const", "continue", "debugger", "default", "delete", "do",
    "else", "enum", "export", "extends", "false", "finally", "for", "function", "if", "import",
    "in", "instanceof", "new", "null", "return", "super", "switch", "this", "throw", "true", "try",
    "typeof", "var", "void", "while", "with"]

/-- The punctuators and operators, longer ones before their beginnings. -/
def marks : List String :=
  [">>>=", "...", "===", "!==", "**=", "<<=", ">>=", ">>>", "&&=", "||=", "??=", "=>", "==", "!=",
    "<=", ">=", "&&", "||", "??", "?.", "++", "--", "+=", "-=", "*=", "/=", "%=", "&=", "|=", "^=",
    "<<", ">>", "**", "\x7b", "\x7d", "(", ")", "[", "]", ";", ",", "<", ">", "+", "-", "*", "/",
    "%", "&", "|", "^", "!", "~", "?", ":", "=", ".", "@"]

/-- The operators that assign a combination of the old value and a new one. -/
def compoundAssignments : List String :=
  ["+=", "-=", "*=", "/=", "%=", "**=", "<<=", ">>=", ">>>=", "&=", "|=", "^=", "&&=", "||=", "??="]

/-- How strongly a binary operator binds; `none` for any other token. -/
def Token.strength? : Token → Option Nat
  | .mark "??" => some 1
  | .mark "||" => some 2
  | .mark "&&" => some 3
  | .mark "|" => some 4
  | .mark "^" => some 5
  | .mark "&" => some 6
  | .mark "==" | .mark "!=" | .mark "===" | .mark "!==" => some 7
  | .mark "<" | .mark ">" | .mark "<=" | .mark ">=" => some 8
  | .word "instanceof" false | .word "in" false => some 8
  | .mark "<<" | .mark ">>" | .mark ">>>" => some 9
  | .mark "+" | .mark "-" => some 10
  | .mark "*" | .mark "/" | .mark "%" => some 11
  | .mark "**" => some 12
  | _ => none

/-- Whether a token is a keyword spelled without escapes. -/
def Token.isWord (t : Token) (text : String) : Bool :=
  t == .word text false

/-- Whether a token is the given mark. -/
def Token.isMark (t : Token) (text : String) : Bool :=
  t == .mark text

/-- Whether a token starts a template. -/
def Token.isTemplate : Token → Bool
  | .template .. => true
  | _ => false

/-- Whether a token can start the name of a property. -/
def Token.startsPropertyName : Token → Bool
  | .word .. | .number | .quoted _ => true
  | t => t.isMark "["

/-- Whether a token is a word or a literal that can follow an operator word on its line. -/
def Token.isWordOrLiteral : Token → Bool
  | .word .. | .number | .quoted _ => true
  | _ => false

end Taglit.Script
