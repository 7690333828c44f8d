import LinkGuard.Text.Blank
import LinkGuard.Text.Quoted

/-!
# Durations

A duration is a whole number of nanoseconds. It is written as one or more components, each a
decimal numeral and a unit, such as `300ms`, `1.5h` or `2h45m`; a plus sign may stand in front,
and the empty text and a bare `0` are zero. Components are added in binary floating point, in the
order in which they are written, and the sum is rounded to the nearest nanosecond, a half away
from zero. A sum beyond 64 bits is an error rather than a very long time.
-/

namespace LinkGuard

/-- A length of time in nanoseconds. -/
structure Duration where
  nanoseconds : Nat
  deriving DecidableEq, Repr, Inhabited

namespace Duration

/-- No time at all. -/
def zero : Duration := ⟨0⟩

/-- A whole number of seconds. -/
def ofSeconds (seconds : Nat) : Duration := ⟨seconds * 1000000000⟩

/-- The fraction digits of `value` parts of `unit`, where `unit` is a power of ten; no trailing
zeros, and nothing at all for a zero fraction. -/
def fractionDigits (value unit : Nat) : List Char :=
  let digits := Nat.toDigits 10 (unit + value % unit) |>.drop 1
  (digits.reverse.dropWhile (· = '0')).reverse

/-- A number of parts of `unit` as a decimal. -/
def decimal (value unit : Nat) : String :=
  let whole := toString (value / unit)
  match fractionDigits value unit with
  | [] => whole
  | digits => whole ++ "." ++ String.ofList digits

/-- The shortest exact text, in the largest unit of which there is at least one. -/
def text (duration : Duration) : String :=
  let value := duration.nanoseconds
  if 1000000000 ≤ value then decimal value 1000000000 ++ "s"
  else if 1000000 ≤ value then decimal value 1000000 ++ "ms"
  else if 1000 ≤ value then decimal value 1000 ++ "µs"
  else decimal value 1 ++ "ns"

/-- A written duration that does not follow the grammar, or is too long. -/
structure Invalid where
  written : String
  deriving DecidableEq, Repr

/-- The text of the error. -/
def Invalid.message (error : Invalid) : String :=
  "invalid duration: " ++ Text.quoted error.written

/-- A character of a numeral. -/
def isNumeralChar (character : Char) : Bool :=
  character.isDigit || character == '.'

/-- The value of a run of decimal digits. -/
def digitsValue (digits : List Char) : Nat :=
  digits.foldl (fun value digit => value * 10 + (digit.toNat - '0'.toNat)) 0

/-- A numeral: digits with at most one point among them and at least one digit. -/
def numeral? (written : List Char) : Option Float :=
  let whole := written.takeWhile Char.isDigit
  let fraction :=
    match written.dropWhile Char.isDigit with
    | [] => some []
    | _ :: rest => if rest.all Char.isDigit then some rest else none
  match fraction with
  | none => none
  | some fraction =>
    if whole ++ fraction = [] then none
    else some (Float.ofScientific (digitsValue (whole ++ fraction)) true fraction.length)

/-- The nanoseconds in a unit. Both signs that look like a micro sign are accepted. -/
def unit? (name : List Char) : Option Float :=
  if name = ['n', 's'] then some 1.0
  else if name = ['u', 's'] ∨ name = ['\u00b5', 's'] ∨ name = ['\u03bc', 's'] then some 1e3
  else if name = ['m', 's'] then some 1e6
  else if name = ['s'] then some 1e9
  else if name = ['m'] then some 60e9
  else if name = ['h'] then some 3600e9
  else none

/-- Adds the components of a written duration to a sum, from left to right. -/
def sum? (total : Float) (written : List Char) : Option Float :=
  match written with
  | [] => some total
  | first :: rest =>
    if isNumeralChar first then
      let number := first :: rest.takeWhile isNumeralChar
      let behind := rest.dropWhile isNumeralChar
      let name := behind.takeWhile fun character => !isNumeralChar character
      match numeral? number, unit? name with
      | some number, some unit =>
        sum? (total + number * unit) (behind.dropWhile fun character => !isNumeralChar character)
      | _, _ => none
    else none
  termination_by written.length
  decreasing_by
    have afterUnit := ((rest.dropWhile isNumeralChar).dropWhile_suffix
      fun character => !isNumeralChar character).length_le
    have afterNumber := (rest.dropWhile_suffix isNumeralChar).length_le
    simp only [List.length_cons]
    omega

/-- The longest sum that still fits: two to the power of 64 nanoseconds. -/
def limit : Float := 18446744073709551616.0

/-- The components behind an optional plus sign. -/
def unsigned (written : List Char) : List Char :=
  match written with
  | '+' :: rest => rest
  | _ => written

/-- Reads a written duration; the error carries the text as it was given. -/
def parse (written : String) : Except Invalid Duration :=
  let trimmed := Text.trimBlanks written.toList
  if trimmed = [] ∨ trimmed = ['0'] then .ok zero
  else
    match sum? 0.0 (unsigned trimmed) with
    | none => .error ⟨written⟩
    | some total =>
      if total.isFinite ∧ total ≤ limit then .ok ⟨total.round.toUInt64.toNat⟩
      else .error ⟨written⟩

end Duration

end LinkGuard
