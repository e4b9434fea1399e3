import Taglit.Json.Basic
import Taglit.Text.Escape

/-!
# Why a JSON text or value is refused

A text can fail to be JSON, and a value can fail to have the form that is expected of it.  `Cause`
lists the reasons and `Cause.message` words them; a failure in a text also says where.
-/

namespace Taglit.Json

/-- A reason to refuse a JSON text or value. -/
inductive Cause where
  | listUnfinished
  | objectUnfinished
  | textUnfinished
  | valueUnfinished
  | colonExpected
  | listMarkExpected
  | objectMarkExpected
  | unknownWord
  | valueExpected
  | invalidEscape
  | invalidNumber
  | numberTooLarge
  | controlCharacter
  | nameExpected
  | loneSurrogate
  | trailingComma
  | trailingCharacters
  | surrogateUnfinished
  | tooDeep
  | wrongType (found expected : String)
  | missingField (name : String)
  | unknownField (name : String) (known : List String)
  | duplicateField (name : String)
  | wrongLength (length : Nat) (expected : String)
  | noVariant (name : String)
  deriving DecidableEq

/-- A name between backticks. -/
def fieldName (name : String) : String :=
  "`" ++ name ++ "`"

/-- The wording of a cause. -/
def Cause.message : Cause → String
  | listUnfinished => "EOF while parsing a list"
  | objectUnfinished => "EOF while parsing an object"
  | textUnfinished => "EOF while parsing a string"
  | valueUnfinished => "EOF while parsing a value"
  | colonExpected => "expected `:`"
  | listMarkExpected => "expected `,` or `]`"
  | objectMarkExpected => "expected `,` or `\x7d`"
  | unknownWord => "expected ident"
  | valueExpected => "expected value"
  | invalidEscape => "invalid escape"
  | invalidNumber => "invalid number"
  | numberTooLarge => "number out of range"
  | controlCharacter => "control character (\\u0000-\\u001F) found while parsing a string"
  | nameExpected => "key must be a string"
  | loneSurrogate => "lone leading surrogate in hex escape"
  | trailingComma => "trailing comma"
  | trailingCharacters => "trailing characters"
  | surrogateUnfinished => "unexpected end of hex escape"
  | tooDeep => "recursion limit exceeded"
  | wrongType found expected => "invalid type: " ++ found ++ ", expected " ++ expected
  | missingField name => "missing field " ++ fieldName name
  | unknownField name known =>
    "unknown field " ++ fieldName name ++ ", expected one of " ++
      ", ".intercalate (known.map fieldName)
  | duplicateField name => "duplicate field " ++ fieldName name
  | wrongLength length expected => "invalid length " ++ toString length ++ ", expected " ++ expected
  | noVariant name => "data did not match any variant of untagged enum " ++ name

/-- What a value is, for a message about its type. -/
def describe : Json → String
  | .null => "null"
  | .bool true => "boolean `true`"
  | .bool false => "boolean `false`"
  | .number (.float x) => "floating point " ++ fieldName (Decimal.writeFloat x)
  | .number n => "integer " ++ fieldName n.write
  | .text s => "string " ++ Text.quote s
  | .array _ => "sequence"
  | .object _ => "map"

/-- The cause for a value that is not of the expected type. -/
def mistyped (value : Json) (expected : String) : Cause :=
  .wrongType (describe value) expected

/-! ## Places in a text -/

/-- A place in a text: the line, counted from one, and the number of bytes before it in the line. -/
structure Position where
  line : Nat
  column : Nat
  deriving DecidableEq

/-- The place after the given bytes. -/
def Position.after (bytes : List UInt8) : Position where
  line := 1 + bytes.count 10
  column := (bytes.reverse.takeWhile (· != 10)).length

/-- A cause, and the place where it was seen if it was seen in a text. -/
structure Failure where
  cause : Cause
  position? : Option Position := none
  deriving DecidableEq

/-- The wording of a failure. -/
def Failure.message (failure : Failure) : String :=
  match failure.position? with
  | none => failure.cause.message
  | some p =>
    failure.cause.message ++ " at line " ++ toString p.line ++ " column " ++ toString p.column

end Taglit.Json
