import RemoteAttach.Json.Printer
import RemoteAttach.Text.Quoted

/-! Why a JSON text cannot be read, and where. A place is a line and the number of bytes since the
line began. -/

namespace RemoteAttach.Json

/-- What a value that is asked for has to be. -/
inductive Expected where
  | string
  | boolean
  | sequence
  | map
  /-- A record of the given name. -/
  | record (name : String)
  deriving DecidableEq, Repr

/-- What was found in the place of a value that was asked for. -/
inductive Found where
  | null
  | boolean (value : Bool)
  | number (value : Number)
  | string (text : String)
  | sequence
  | map
  deriving DecidableEq, Repr

/-- Why a text cannot be read. -/
inductive Cause where
  | endInValue
  | endInList
  | endInObject
  | endInString
  | expectedValue
  | expectedIdent
  | expectedColon
  | expectedItemEnd
  | expectedMemberEnd
  | trailingComma
  | keyNotString
  | trailingCharacters
  | invalidNumber
  | numberOutOfRange
  | invalidEscape
  | loneSurrogate
  | unfinishedSurrogate
  | controlCharacter
  | tooDeep
  | wrongType (found : Found) (expected : Expected)
  | duplicateField (name : String)
  /-- Pipe arguments that are neither a string nor an array of strings. -/
  | notPipeArgs
  deriving DecidableEq, Repr

/-- The words for what a value has to be. -/
def Expected.describe : Expected → String
  | string => "a string"
  | boolean => "a boolean"
  | sequence => "a sequence"
  | map => "a map"
  | record name => "struct " ++ name

/-- The words for what was found. -/
def Found.describe : Found → String
  | null => "null"
  | boolean value => "boolean `" ++ (if value then "true" else "false") ++ "`"
  | number (.integer value) => "integer `" ++ toString value ++ "`"
  | number (.decimal value) => "floating point `" ++ String.ofList value.text ++ "`"
  | string text => "string " ++ Text.quoted text
  | sequence => "sequence"
  | map => "map"

/-- The words for a cause. -/
def Cause.message : Cause → String
  | endInValue => "EOF while parsing a value"
  | endInList => "EOF while parsing a list"
  | endInObject => "EOF while parsing an object"
  | endInString => "EOF while parsing a string"
  | expectedValue => "expected value"
  | expectedIdent => "expected ident"
  | expectedColon => "expected `:`"
  | expectedItemEnd => "expected `,` or `]`"
  | expectedMemberEnd => "expected `,` or `\x7d`"
  | trailingComma => "trailing comma"
  | keyNotString => "key must be a string"
  | trailingCharacters => "trailing characters"
  | invalidNumber => "invalid number"
  | numberOutOfRange => "number out of range"
  | invalidEscape => "invalid escape"
  | loneSurrogate => "lone leading surrogate in hex escape"
  | unfinishedSurrogate => "unexpected end of hex escape"
  | controlCharacter => "control character (\\u0000-\\u001F) found while parsing a string"
  | tooDeep => "recursion limit exceeded"
  | wrongType found expected =>
    "invalid type: " ++ found.describe ++ ", expected " ++ expected.describe
  | duplicateField name => "duplicate field `" ++ name ++ "`"
  | notPipeArgs => "data did not match any variant of untagged enum PipeArgs"

/-- A place in a text: its line, counted from one, and the bytes of that line before it. -/
structure Position where
  line : Nat := 1
  column : Nat := 0
  deriving DecidableEq, Repr

/-- Why and where a text cannot be read. -/
structure ReadError where
  cause : Cause
  position : Position
  deriving DecidableEq, Repr

/-- The words for an error, with its place. -/
def ReadError.message (e : ReadError) : String :=
  e.cause.message ++ " at line " ++ toString e.position.line ++ " column " ++
    toString e.position.column

end RemoteAttach.Json
