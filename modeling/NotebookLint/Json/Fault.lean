import NotebookLint.Text.Place

/-! What can be wrong with a JSON text, and where. -/
namespace NotebookLint.Json

inductive Fault where
  | endInValue
  | endInArray
  | endInObject
  | endInString
  | valueExpected
  | wordExpected
  | badNumber
  | numberTooLarge
  | controlCharacter
  | badEscape
  | loneSurrogate
  | brokenSurrogatePair
  | trailingComma
  | arraySeparatorExpected
  | objectSeparatorExpected
  | colonExpected
  | nameExpected
  | nestedTooDeep
  | textAfterValue
  deriving DecidableEq, Repr

def Fault.message : Fault → String
  | endInValue => "EOF while parsing a value"
  | endInArray => "EOF while parsing a list"
  | endInObject => "EOF while parsing an object"
  | endInString => "EOF while parsing a string"
  | valueExpected => "expected value"
  | wordExpected => "expected ident"
  | badNumber => "invalid number"
  | numberTooLarge => "number out of range"
  | controlCharacter => "control character (\\u0000-\\u001F) found while parsing a string"
  | badEscape => "invalid escape"
  | loneSurrogate => "lone leading surrogate in hex escape"
  | brokenSurrogatePair => "unexpected end of hex escape"
  | trailingComma => "trailing comma"
  | arraySeparatorExpected => "expected `,` or `]`"
  | objectSeparatorExpected => "expected `,` or `\x7d`"
  | colonExpected => "expected `:`"
  | nameExpected => "key must be a string"
  | nestedTooDeep => "recursion limit exceeded"
  | textAfterValue => "trailing characters"

structure Error where
  fault : Fault
  place : Text.Place
  deriving DecidableEq, Repr

def Error.message (error : Error) : String :=
  error.fault.message ++ " at line " ++ toString error.place.line ++
    " column " ++ toString error.place.column

end NotebookLint.Json
