import Taglit.Decimal.Shortest
import Taglit.Text.Basic

/-!
# JSON values

A value keeps the members of an object in the order in which they were first named.  Integers that
fit into 64 bits are exact, all other numbers are doubles.
-/

namespace Taglit

/-- A number of a JSON text: an integer that is not negative, the negative of a positive integer, or
any other number. -/
inductive Json.Number where
  | nat (n : Nat)
  | neg (n : Nat)
  | float (x : Float)

/-- A JSON value. -/
inductive Json where
  | null
  | bool (b : Bool)
  | number (n : Json.Number)
  | text (s : String)
  | array (items : List Json)
  | object (members : List (String × Json))

namespace Json

/-- The value of the first member with the given name. -/
def lookup (name : String) : List (String × Json) → Option Json
  | [] => none
  | (key, value) :: members => if key = name then some value else lookup name members

/-- Set a member: in its place if there is one of that name, else at the end. -/
def put (members : List (String × Json)) (name : String) (value : Json) : List (String × Json) :=
  match members with
  | [] => [(name, value)]
  | (key, old) :: members =>
    if key = name then (key, value) :: members else (key, old) :: put members name value

/-- The member of the given name, if the value is an object that has it. -/
def get? (json : Json) (name : String) : Option Json :=
  match json with
  | object members => lookup name members
  | _ => none

/-- The text, if the value is one. -/
def asText? : Json → Option String
  | text s => some s
  | _ => none

/-! ## Writing -/

/-- A number as text. -/
def Number.write : Number → String
  | nat n => toString n
  | neg n => "-" ++ toString n
  | float x => Decimal.writeFloat x

/-- The form of one character inside a JSON text value. -/
def escapeChar (c : Char) : List Char :=
  match c with
  | '"' => ['\\', '"']
  | '\\' => ['\\', '\\']
  | '\x08' => ['\\', 'b']
  | '\x0c' => ['\\', 'f']
  | '\n' => ['\\', 'n']
  | '\r' => ['\\', 'r']
  | '\t' => ['\\', 't']
  | c => if c.toNat < 0x20 then '\\' :: 'u' :: Text.hexDigitsPadded 4 c.toNat else [c]

/-- A text as a JSON value: between double quotes, with quotes, backslashes and control characters
escaped. -/
def writeText (s : String) : String :=
  .ofList ('"' :: s.toList.flatMap escapeChar ++ ['"'])

mutual

/-- A value as text, without blanks. -/
def write : Json → String
  | null => "null"
  | bool true => "true"
  | bool false => "false"
  | number n => n.write
  | text s => writeText s
  | array items => "[" ++ ",".intercalate (writeItems items) ++ "]"
  | object members => "\x7b" ++ ",".intercalate (writeMembers members) ++ "\x7d"

/-- The texts of the items of an array. -/
def writeItems : List Json → List String
  | [] => []
  | item :: items => item.write :: writeItems items

/-- The texts of the members of an object. -/
def writeMembers : List (String × Json) → List String
  | [] => []
  | (name, value) :: members => (writeText name ++ ":" ++ value.write) :: writeMembers members

end

end Json

end Taglit
