import LinkGuard.Time.Instant

/-!
# Timestamps

Instants are written as RFC 3339 timestamps in universal time, with no fraction or with three, six
or nine digits, whichever is the shortest exact form. Years outside 0 to 9999 carry a sign.

Reading is more generous. Date and time may be separated by `T`, `t` or a space, numbers may be
short, blanks may stand around the signs between them, and the offset may be `Z`, `UTC`, or a sign
with hours and minutes. Digits of the fraction beyond the ninth are dropped.
-/

namespace LinkGuard.Timestamp

/-- Why a text is no timestamp. -/
inductive Problem where
  | tooShort
  | invalid
  | outOfRange
  | trailing
  | impossible
  deriving DecidableEq, Repr

/-- The wording of a problem. -/
def Problem.describe : Problem → String
  | tooShort => "premature end of input"
  | invalid => "input contains invalid characters"
  | outOfRange => "input is out of range"
  | trailing => "trailing input"
  | impossible => "no possible date and time matching input"

/-- A number with at least `width` digits. -/
def padded (width value : Nat) : List Char :=
  let digits := Nat.toDigits 10 value
  List.replicate (width - digits.length) '0' ++ digits

/-- A year: four digits, or a sign and at least four digits. -/
def writeYear (year : Int) : List Char :=
  if 0 ≤ year ∧ year ≤ 9999 then padded 4 year.toNat
  else (if year < 0 then '-' else '+') :: padded 4 year.natAbs

/-- The shortest exact fraction of a second. -/
def writeFraction (nanos : Nat) : List Char :=
  if nanos = 0 then []
  else if nanos % 1000000 = 0 then '.' :: padded 3 (nanos / 1000000)
  else if nanos % 1000 = 0 then '.' :: padded 6 (nanos / 1000)
  else '.' :: padded 9 nanos

/-- The characters of a timestamp. A leap second is written as second 60. -/
def writeChars (instant : Instant) : List Char :=
  let date := Calendar.Date.ofDays (instant.seconds / Instant.secondsPerDay)
  let inDay := (instant.seconds % Instant.secondsPerDay).toNat
  let leap := if Instant.nanosPerSecond ≤ instant.nanos then 1 else 0
  writeYear date.year ++ ['-'] ++ padded 2 date.month ++ ['-'] ++ padded 2 date.day ++ ['T'] ++
    padded 2 (inDay / 3600) ++ [':'] ++ padded 2 (inDay / 60 % 60) ++ [':'] ++
    padded 2 (inDay % 60 + leap) ++
    writeFraction (instant.nanos - leap * Instant.nanosPerSecond) ++ ['Z']

/-- The text of a timestamp. -/
def write (instant : Instant) : String :=
  String.ofList (writeChars instant)

/-- A reader of a part of the text: its value and what is left. -/
abbrev Parse (α : Type) := List Char → Except Problem (α × List Char)

/-- The value of a run of digits. -/
def digitsValue (digits : List Char) : Nat :=
  digits.foldl (fun value digit => value * 10 + (digit.toNat - '0'.toNat)) 0

/-- A number of one to `width` digits, or of any length without a width. -/
def number (width : Option Nat) : Parse Nat := fun written =>
  let run := written.takeWhile Char.isDigit
  let digits := match width with
    | some width => run.take width
    | none => run
  if written = [] then .error .tooShort
  else if digits = [] then .error .invalid
  else if Nat.pow 2 63 ≤ digitsValue digits then .error .outOfRange
  else .ok (digitsValue digits, written.drop digits.length)

/-- Drops blanks. -/
def skipBlanks (written : List Char) : List Char :=
  written.dropWhile Text.isBlank

/-- A number of up to two digits after blanks, within bounds. -/
def part (low high : Nat) : Parse Nat := fun written => do
  let (value, rest) ← number (some 2) (skipBlanks written)
  if low ≤ value ∧ value ≤ high then .ok (value, rest) else .error .outOfRange

/-- A fixed character, after blanks. -/
def mark (character : Char) : Parse Unit := fun written =>
  match skipBlanks written with
  | [] => .error .tooShort
  | first :: rest => if first = character then .ok ((), rest) else .error .invalid

/-- A year: up to four digits, or a sign and any number of digits. -/
def year : Parse Int := fun written => do
  let (value, rest) ←
    match skipBlanks written with
    | '-' :: rest => (number none rest).map fun (value, rest) => (-(value : Int), rest)
    | '+' :: rest => (number none rest).map fun (value, rest) => ((value : Int), rest)
    | rest => (number (some 4) rest).map fun (value, rest) => ((value : Int), rest)
  if Int.bmod value (Nat.pow 2 32) = value then .ok (value, rest) else .error .outOfRange

/-- The nanoseconds of a fraction, if there is one. -/
def fraction : Parse Nat := fun written =>
  match written with
  | '.' :: rest => do
    let (value, behind) ← number (some 9) rest
    let taken := rest.length - behind.length
    .ok (value * Nat.pow 10 (9 - taken), behind.dropWhile Char.isDigit)
  | _ => .ok (0, written)

/-- Two digits. -/
def twoDigits : Parse Nat := fun written =>
  match written with
  | first :: second :: rest =>
    if first.isDigit ∧ second.isDigit then .ok (digitsValue [first, second], rest)
    else .error .invalid
  | _ => .error .tooShort

/-- How many bytes the characters take, as far as two matter. -/
def hasTwoBytes : List Char → Bool
  | [] => false
  | [character] => 0x80 ≤ character.toNat
  | _ => true

/-- The minutes of an offset. -/
def offsetMinutes : Parse Nat := fun written =>
  if hasTwoBytes written then do
    match written with
    | first :: second :: rest =>
      if first.isDigit ∧ second.isDigit then
        if '6' ≤ first then .error .outOfRange else .ok (digitsValue [first, second], rest)
      else .error .invalid
    | _ => .error .invalid
  else .error .tooShort

/-- The seconds by which local time is ahead of universal time. -/
def offset : Parse Int := fun written =>
  let signed (negative : Bool) (rest : List Char) : Except Problem (Int × List Char) := do
    let (hours, rest) ←
      if hasTwoBytes rest then
        match twoDigits rest with
        | .ok found => .ok found
        | .error _ => .error .invalid
      else .error .tooShort
    let (minutes, rest) ←
      offsetMinutes (rest.dropWhile fun character => character == ':' || Text.isBlank character)
    let seconds : Int := (hours * 3600 + minutes * 60 : Nat)
    .ok (if negative then -seconds else seconds, rest)
  match written with
  | [] => .error .tooShort
  | first :: rest =>
    if (written.take 3).map Char.toLower = ['u', 't', 'c'] then .ok (0, written.drop 3)
    else if first = 'Z' ∨ first = 'z' then .ok (0, rest)
    else if first = '+' then signed false rest
    else if first = '-' ∨ first = '\u2212' then signed true rest
    else .error .invalid

/-- The sign between date and time. -/
def separator : Parse Unit := fun written =>
  match written with
  | [] => .error .tooShort
  | first :: rest =>
    if first = 'T' ∨ first = 't' ∨ first = ' ' then .ok ((), rest) else .error .invalid

/-- The instant of a date, a time of day and an offset. -/
def assemble (date : Calendar.Date) (secondOfDay nanos : Nat) (offset : Int) :
    Except Problem Instant :=
  let civil := date.toDays * Instant.secondsPerDay + (secondOfDay : Int)
  if !date.exists then .error .outOfRange
  else if !Instant.isRepresentable civil then .error .outOfRange
  else if offset ≤ -Instant.secondsPerDay ∨ Instant.secondsPerDay ≤ offset then .error .outOfRange
  else if !Instant.isRepresentable (civil - offset) then .error .impossible
  else .ok ⟨civil - offset, nanos⟩

/-- Reads a timestamp from characters. -/
def parseChars (written : List Char) : Except Problem Instant := do
  let (year, rest) ← year written
  let ((), rest) ← mark '-' rest
  let (month, rest) ← part 1 12 rest
  let ((), rest) ← mark '-' rest
  let (day, rest) ← part 1 31 rest
  let ((), rest) ← separator rest
  let (hour, rest) ← part 0 23 rest
  let ((), rest) ← mark ':' rest
  let (minute, rest) ← part 0 59 rest
  let ((), rest) ← mark ':' rest
  let (second, rest) ← part 0 60 rest
  let (nanos, rest) ← fraction rest
  let (offset, rest) ← offset (skipBlanks rest)
  if skipBlanks rest ≠ [] then .error .trailing
  else
    let leap := second / 60
    assemble ⟨year, month, day⟩ (hour * 3600 + minute * 60 + (second - leap))
      (nanos + leap * Instant.nanosPerSecond) offset

/-- Reads a timestamp. -/
def parse (written : String) : Except Problem Instant :=
  parseChars written.toList

end LinkGuard.Timestamp
