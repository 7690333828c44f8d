/-!
# Writing JSON

Answers are written compactly: no blanks, members in the order of their record, and inside texts
only what has to be escaped. The short escapes come first, the remaining control characters are
`\u` with four small hex digits, and every other character stands for itself.
-/

namespace LinkGuard.Json

/-- The small hex digit of a value below 16. -/
def hexDigit (value : Nat) : Char :=
  Char.ofNat (if value < 10 then 0x30 + value else 0x57 + value)

/-- One character inside a text. -/
def quoteChar (character : Char) : List Char :=
  if character = '\x22' then ['\\', '\x22']
  else if character = '\\' then ['\\', '\\']
  else if character = '\x08' then ['\\', 'b']
  else if character = '\x0c' then ['\\', 'f']
  else if character = '\n' then ['\\', 'n']
  else if character = '\r' then ['\\', 'r']
  else if character = '\t' then ['\\', 't']
  else if character.toNat < 0x20 then
    ['\\', 'u', '0', '0', hexDigit (character.toNat / 16), hexDigit (character.toNat % 16)]
  else [character]

/-- A text. -/
def text (value : String) : String :=
  String.ofList (['\x22'] ++ value.toList.flatMap quoteChar ++ ['\x22'])

/-- A whole number. -/
def natural (value : Nat) : String :=
  toString value

/-- A list of written values. -/
def list (items : List String) : String :=
  "[" ++ ",".intercalate items ++ "]"

/-- A record of written members. -/
def record (members : List (String × String)) : String :=
  "\x7b" ++ ",".intercalate (members.map fun (name, value) => text name ++ ":" ++ value) ++ "\x7d"

end LinkGuard.Json
