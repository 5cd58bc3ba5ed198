/-!
# Why a JSON text is refused

## Main Definitions

* `Json.Position` — a place in a text
* `Json.Fault`, `Json.Fault.message` — what is wrong, and how it is told
* `Json.Error` — a fault and where it is
-/

namespace RouteMigration.Json

/-- A place in a text: lines count from one, and the column is the number of bytes before the
place on its line. -/
structure Position where
  line : Nat := 1
  column : Nat := 0
deriving DecidableEq, Repr, Inhabited

/-- The place after one more byte. -/
def Position.after (p : Position) (byte : UInt8) : Position :=
  if byte = 10 then ⟨p.line + 1, 0⟩ else ⟨p.line, p.column + 1⟩

/-- What is wrong with a text. -/
inductive Fault where
  /-- The text ends where a value had to follow. -/
  | endInValue
  | endInList
  | endInObject
  | endInString
  | valueExpected
  /-- A word that begins like `true`, `false` or `null` goes on otherwise. -/
  | wordExpected
  | colonExpected
  | listEndExpected
  | objectEndExpected
  | keyExpected
  | trailingComma
  /-- More text follows the value. -/
  | trailingText
  | invalidNumber
  | numberTooLarge
  | invalidEscape
  | controlCharacter
  /-- An escape names half of a character. -/
  | loneSurrogate
  /-- An escape names the first half of a character and no escape follows. -/
  | unfinishedEscape
  | tooDeep
  /-- A value of another kind stands where one of the expected kind must. -/
  | invalidType (found expected : String)
  | unknownField (name : String) (known : List String)
  | duplicateField (name : String)
  | unknownVariant (name : String)
deriving DecidableEq, Repr, Inhabited

/-- Names in back quotes, separated by commas. -/
def quotedNames : List String → String
  | [] => ""
  | [n] => "`" ++ n ++ "`"
  | n :: rest => "`" ++ n ++ "`, " ++ quotedNames rest

/-- How a fault is told. -/
def Fault.message : Fault → String
  | endInValue => "EOF while parsing a value"
  | endInList => "EOF while parsing a list"
  | endInObject => "EOF while parsing an object"
  | endInString => "EOF while parsing a string"
  | valueExpected => "expected value"
  | wordExpected => "expected ident"
  | colonExpected => "expected `:`"
  | listEndExpected => "expected `,` or `]`"
  | objectEndExpected => "expected `,` or `\x7d`"
  | keyExpected => "key must be a string"
  | trailingComma => "trailing comma"
  | trailingText => "trailing characters"
  | invalidNumber => "invalid number"
  | numberTooLarge => "number out of range"
  | invalidEscape => "invalid escape"
  | controlCharacter =>
    "control character (\\u0000-\\u001F) found while parsing a string"
  | loneSurrogate => "lone leading surrogate in hex escape"
  | unfinishedEscape => "unexpected end of hex escape"
  | tooDeep => "recursion limit exceeded"
  | invalidType found expected => "invalid type: " ++ found ++ ", expected " ++ expected
  | unknownField name known =>
    "unknown field `" ++ name ++ "`, expected one of " ++ quotedNames known
  | duplicateField name => "duplicate field `" ++ name ++ "`"
  | unknownVariant name =>
    "unknown variant `" ++ name ++ "`, expected `font-aware` or `plain`"

/-- A fault and where it is. -/
structure Error where
  fault : Fault
  position : Position
deriving DecidableEq, Repr, Inhabited

/-- How an error is told. -/
def Error.message (e : Error) : String :=
  e.fault.message ++ " at line " ++ toString e.position.line ++ " column " ++
    toString e.position.column

end RouteMigration.Json
