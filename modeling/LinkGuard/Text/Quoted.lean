import LinkGuard.Text.Unprintable

/-!
# Quoted text in messages

A message that repeats its input puts it between double quotes. Quotes and backslashes inside are
escaped, tab, line feed, carriage return and the null character have short escapes, and every
other character without a shape of its own is written as `\u` with its number in braces.
-/

namespace LinkGuard.Text

/-- The digits of a number in small hex. -/
def hexDigits (number : Nat) : List Char :=
  Nat.toDigits 16 number

/-- One character inside quotes. -/
def quoteChar (character : Char) : List Char :=
  if character = '\x00' then ['\\', '0']
  else if character = '\t' then ['\\', 't']
  else if character = '\r' then ['\\', 'r']
  else if character = '\n' then ['\\', 'n']
  else if character = '\x22' then ['\\', '\x22']
  else if character = '\\' then ['\\', '\\']
  else if isUnprintable character then
    ['\\', 'u', '\x7b'] ++ hexDigits character.toNat ++ ['\x7d']
  else [character]

/-- A text between quotes, as messages show it. -/
def quoted (text : String) : String :=
  String.ofList (['\x22'] ++ text.toList.flatMap quoteChar ++ ['\x22'])

end LinkGuard.Text
