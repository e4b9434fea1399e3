import Taglit.Text.PrintableTable

/-!
# Escaping of text for the places it is written to

Markup text ends up inside a template literal, attribute values between double quotes, and property
names before a colon in an object literal.  A text in a message stands between double quotes.  Each
place has its own escaping, a function on lists of characters with a wrapper on `String`.

* `escapeTemplate` keeps a text from ending its template literal or opening a substitution.
* `escapeAttribute` keeps a value from ending its attribute.
* `propertyKey` writes a name as a key of an object literal, quoted unless it is an identifier.
* `quote` writes a text so that a reader sees what is in it: quotes and backslashes have a backslash
  before them, and a character without a visible form of its own is written by its name or its code
  point.
-/

namespace Taglit.Text

/-! ## Template text -/

/-- Put a backslash before every backslash, every backtick and every dollar sign that an opening
brace follows. -/
def escapeTemplateChars : List Char → List Char
  | [] => []
  | '\\' :: cs => '\\' :: '\\' :: escapeTemplateChars cs
  | '\x60' :: cs => '\\' :: '\x60' :: escapeTemplateChars cs
  | '$' :: '\x7b' :: cs => '\\' :: '$' :: '\x7b' :: escapeTemplateChars cs
  | c :: cs => c :: escapeTemplateChars cs

/-- The form in which a text stands inside a template literal. -/
def escapeTemplate (text : String) : String :=
  .ofList (escapeTemplateChars text.toList)

/-! ## Attribute values -/

/-- The form of one character inside a quoted attribute value. -/
def escapeAttributeChar : Char → List Char
  | '\'' => "&#39;".toList
  | '"' => "&quot;".toList
  | c => [c]

/-- The form in which a text stands inside a quoted attribute value: both kinds of quote become
character references. -/
def escapeAttribute (text : String) : String :=
  .ofList (text.toList.flatMap escapeAttributeChar)

/-! ## Property keys -/

/-- The characters that may start an identifier of the plain (ASCII) kind. -/
def isIdentifierHead (c : Char) : Bool :=
  c.isAlpha || c == '_' || c == '$'

/-- The characters that may continue an identifier of the plain (ASCII) kind. -/
def isIdentifierTail (c : Char) : Bool :=
  c.isAlphanum || c == '_' || c == '$'

/-- Whether a list of characters is a plain identifier. -/
def isIdentifierChars : List Char → Bool
  | [] => false
  | c :: cs => isIdentifierHead c && cs.all isIdentifierTail

/-- Whether a text is a plain identifier: an ASCII letter, `_` or `$`, then any number of these and
of digits. -/
def isIdentifier (text : String) : Bool :=
  isIdentifierChars text.toList

/-- What may start an identifier may also continue it. -/
theorem isIdentifierTail_of_isIdentifierHead {c : Char} (h : isIdentifierHead c = true) :
    isIdentifierTail c = true := by
  simp only [isIdentifierHead, isIdentifierTail, Char.isAlphanum, Bool.or_eq_true] at h ⊢
  exact h.imp_left fun h => h.imp_left .inl

/-- Every character of an identifier is one that may continue it. -/
theorem isIdentifierTail_of_mem {name : String} (h : isIdentifier name = true) :
    ∀ c ∈ name.toList, isIdentifierTail c = true := by
  unfold isIdentifier isIdentifierChars at h
  split at h
  · cases h
  · next c cs heq =>
      rw [Bool.and_eq_true, List.all_eq_true] at h
      rw [heq, List.forall_mem_cons]
      exact ⟨isIdentifierTail_of_isIdentifierHead h.1, h.2⟩

/-- The form of one character inside a single-quoted property key. -/
def escapeKeyChar : Char → List Char
  | '\\' => ['\\', '\\']
  | '\'' => ['\\', '\'']
  | '\n' => ['\\', 'n']
  | '\r' => ['\\', 'r']
  | c => [c]

/-- A name as the key of a property in an object literal: as it is if it is an identifier, and
otherwise between single quotes. -/
def propertyKey (name : String) : String :=
  if isIdentifier name then name
  else .ofList ('\'' :: name.toList.flatMap escapeKeyChar ++ ['\''])

/-! ## Quoted text -/

/-- Whether a character stands for itself in quoted text: it has a visible form and does not attach
to the character before it. -/
def isPlain (c : Char) : Bool :=
  c == ' ' || !(unprintable.contains c || graphemeExtend.contains c)

/-- The form of one character in quoted text. -/
def quoteChar (c : Char) : List Char :=
  match c with
  | '\x00' => ['\\', '0']
  | '\t' => ['\\', 't']
  | '\n' => ['\\', 'n']
  | '\r' => ['\\', 'r']
  | '"' => ['\\', '"']
  | '\\' => ['\\', '\\']
  | c => if isPlain c then [c] else '\\' :: 'u' :: '\x7b' :: hexDigits c.toNat ++ ['\x7d']

/-- A text between double quotes. -/
def quote (text : String) : String :=
  .ofList ('"' :: text.toList.flatMap quoteChar ++ ['"'])

end Taglit.Text
