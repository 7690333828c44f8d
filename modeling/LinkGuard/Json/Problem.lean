import LinkGuard.Decimal.Shortest
import LinkGuard.Text.Quoted

/-!
# What can be wrong with a JSON body

A body can break the grammar, or follow it and hold something else than the reader asked for.
Either way the reader stops at the first problem and says where it stands: the line, counted from
one, and the number of bytes of that line that lie up to and including the offending place.
-/

namespace LinkGuard.Json

/-- What stands where something else was expected. -/
inductive Found where
  | null
  | boolean (value : Bool)
  | integer (value : Int)
  | decimal (value : Float)
  | text (value : String)
  | list
  | record

/-- How messages call it. -/
def Found.describe : Found → String
  | null => "null"
  | boolean value => "boolean `" ++ (if value then "true" else "false") ++ "`"
  | integer value => "integer `" ++ toString value ++ "`"
  | decimal value => "floating point `" ++ Decimal.shortest value ++ "`"
  | text value => "string " ++ Text.quoted value
  | list => "sequence"
  | record => "map"

/-- A reason to stop reading. -/
inductive Problem where
  | endInValue
  | endInText
  | endInList
  | endInRecord
  | expectedValue
  | expectedWord
  | expectedColon
  | expectedListEnd
  | expectedRecordEnd
  | nameNotText
  | trailingComma
  | trailingCharacters
  | invalidNumber
  | numberOutOfRange
  | invalidEscape
  | endInEscape
  | loneSurrogate
  | controlCharacter
  | invalidCodePoint
  | wrongType (found : Found) (expected : String)
  | wrongValue (found : Found) (expected : String)
  | unknownVariant (name : String) (known : List String)
  | missingMember (name : String)
  | repeatedMember (name : String)
  | wrongLength (length : Nat) (expected : String)
  | refused (reason : String)

/-- The wording of a problem. -/
def Problem.describe : Problem → String
  | endInValue => "EOF while parsing a value"
  | endInText => "EOF while parsing a string"
  | endInList => "EOF while parsing a list"
  | endInRecord => "EOF while parsing an object"
  | expectedValue => "expected value"
  | expectedWord => "expected ident"
  | expectedColon => "expected `:`"
  | expectedListEnd => "expected `,` or `]`"
  | expectedRecordEnd => "expected `,` or `\x7d`"
  | nameNotText => "key must be a string"
  | trailingComma => "trailing comma"
  | trailingCharacters => "trailing characters"
  | invalidNumber => "invalid number"
  | numberOutOfRange => "number out of range"
  | invalidEscape => "invalid escape"
  | endInEscape => "unexpected end of hex escape"
  | loneSurrogate => "lone leading surrogate in hex escape"
  | controlCharacter => "control character (\\u0000-\\u001F) found while parsing a string"
  | invalidCodePoint => "invalid unicode code point"
  | wrongType found expected => "invalid type: " ++ found.describe ++ ", expected " ++ expected
  | wrongValue found expected => "invalid value: " ++ found.describe ++ ", expected " ++ expected
  | unknownVariant name known =>
    "unknown variant `" ++ name ++ "`, expected one of " ++
      ", ".intercalate (known.map fun option => "`" ++ option ++ "`")
  | missingMember name => "missing field `" ++ name ++ "`"
  | repeatedMember name => "duplicate field `" ++ name ++ "`"
  | wrongLength length expected =>
    "invalid length " ++ toString length ++ ", expected " ++ expected
  | refused reason => reason

/-- A problem and where it stands. -/
structure Error where
  problem : Problem
  line : Nat
  column : Nat

/-- The text of the error. -/
def Error.message (error : Error) : String :=
  error.problem.describe ++ " at line " ++ toString error.line ++ " column " ++
    toString error.column

end LinkGuard.Json
