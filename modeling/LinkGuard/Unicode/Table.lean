import LinkGuard.Text.Letters

/-!
# Tables of characters

Properties of characters are kept as text: lines of entries between blanks, each entry one or more
hex numbers between points. Reading a table gives one list of numbers per entry.
-/

namespace LinkGuard.Unicode

/-- The value of a small hex digit. -/
def hexValue (digit : Char) : Nat :=
  if digit.isDigit then digit.toNat - '0'.toNat else digit.toNat - 'a'.toNat + 10

/-- A hex number. -/
def hexNumber (digits : List Char) : Nat :=
  digits.foldl (fun value digit => value * 16 + hexValue digit) 0

/-- One entry. -/
def readEntry (entry : List Char) : List Nat :=
  (Text.splitChars '.' entry).map hexNumber

/-- All entries of a table. -/
def readTable (lines : List String) : List (List Nat) :=
  lines.flatMap fun line => (Text.splitChars ' ' line.toList).map readEntry

/-- A table of ranges, each with a value. -/
def readRanges (lines : List String) : List (Nat × Nat × Nat) :=
  (readTable lines).map fun entry =>
    match entry with
    | [first, last, value] => (first, last, value)
    | [first, last] => (first, last, 0)
    | _ => (1, 0, 0)

/-- The value of the range that holds a code point. -/
def rangeValue? (ranges : List (Nat × Nat × Nat)) (code : Nat) : Option Nat :=
  (ranges.find? fun range => range.1 ≤ code && code ≤ range.2.1).map fun range => range.2.2

end LinkGuard.Unicode
