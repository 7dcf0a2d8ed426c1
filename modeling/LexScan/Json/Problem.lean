import LexScan.Json.Number
import LexScan.Text.Bytes
import LexScan.Text.Quoted

/-! What can be wrong with a JSON text, and where. A reader reports the number of bytes that were
still unread; the line and column follow from the text. -/
namespace LexScan.Json

open Text

/-- A value that stands where another one was expected. -/
inductive Found where
  | null
  | bool (value : Bool)
  | number (value : Number)
  | string (text : String)
  | list
  | object
deriving DecidableEq, Repr

def Found.describe : Found → String
  | .null => "null"
  | .bool true => "boolean `true`"
  | .bool false => "boolean `false`"
  | .number value =>
      (if value.isFraction then "floating point `" else "integer `") ++ value.text ++ "`"
  | .string text => "string " ++ Text.quoted text
  | .list => "sequence"
  | .object => "map"

inductive Problem where
  | endInValue
  | endInObject
  | endInList
  | endInString
  | expectedValue
  | expectedColon
  | expectedListEnd
  | expectedObjectEnd
  | expectedWord
  | nameNotString
  | trailingComma
  | trailingCharacters
  | invalidNumber
  | numberOutOfRange
  | controlCharacter
  | invalidEscape
  | loneSurrogate
  | endInSurrogatePair
  | wrongType (found : Found) (expected : String)
  | wrongValue (found : Found) (expected : String)
  | unknownVariant (name : String) (expected : List String)
  | duplicateField (name : String)
deriving DecidableEq, Repr

def Problem.message : Problem → String
  | .endInValue => "EOF while parsing a value"
  | .endInObject => "EOF while parsing an object"
  | .endInList => "EOF while parsing a list"
  | .endInString => "EOF while parsing a string"
  | .expectedValue => "expected value"
  | .expectedColon => "expected `:`"
  | .expectedListEnd => "expected `,` or `]`"
  | .expectedObjectEnd => "expected `,` or `\x7d`"
  | .expectedWord => "expected ident"
  | .nameNotString => "key must be a string"
  | .trailingComma => "trailing comma"
  | .trailingCharacters => "trailing characters"
  | .invalidNumber => "invalid number"
  | .numberOutOfRange => "number out of range"
  | .controlCharacter => "control character (\\u0000-\\u001F) found while parsing a string"
  | .invalidEscape => "invalid escape"
  | .loneSurrogate => "lone leading surrogate in hex escape"
  | .endInSurrogatePair => "unexpected end of hex escape"
  | .wrongType found expected => "invalid type: " ++ found.describe ++ ", expected " ++ expected
  | .wrongValue found expected => "invalid value: " ++ found.describe ++ ", expected " ++ expected
  | .unknownVariant name expected =>
      "unknown variant `" ++ name ++ "`, expected " ++
        " or ".intercalate (expected.map fun variant => "`" ++ variant ++ "`")
  | .duplicateField name => "duplicate field `" ++ name ++ "`"

/-- A problem with the number of bytes behind its place. -/
structure Flaw where
  problem : Problem
  unread : Nat
deriving DecidableEq, Repr

/-- A line, counted from one, and the number of bytes on it. -/
structure Place where
  line : Nat
  column : Nat
deriving DecidableEq, Repr

/-- The place behind so many bytes. -/
def placeFrom (here : Place) : List Char → Nat → Place
  | [], _ => here
  | c :: rest, bytes =>
      if bytes < c.utf8Size then ⟨here.line, here.column + bytes⟩
      else if c = '\n' then placeFrom ⟨here.line + 1, 0⟩ rest (bytes - c.utf8Size)
      else placeFrom ⟨here.line, here.column + c.utf8Size⟩ rest (bytes - c.utf8Size)

def Flaw.place (flaw : Flaw) (text : List Char) : Place :=
  placeFrom ⟨1, 0⟩ text (byteSize text - flaw.unread)

def Flaw.message (flaw : Flaw) (text : List Char) : String :=
  let place := flaw.place text
  flaw.problem.message ++ " at line " ++ toString place.line ++ " column " ++ toString place.column

/-- Reading stops right before a text. -/
def stopBefore (problem : Problem) (text : List Char) : Except Flaw α :=
  .error ⟨problem, byteSize text⟩

/-- Reading stops one byte further, or at the end if there is none. -/
def stopAfterByte (problem : Problem) (text : List Char) : Except Flaw α :=
  .error ⟨problem, byteSize text - 1⟩

end LexScan.Json
