import LinkGuard.Json.Cursor

/-!
# Numbers

Whole numbers of up to 64 bits are exact. Everything else (a fraction, an exponent, more digits
than fit, or a negative zero) is a floating-point number made from the leading digits that fit 64
bits and a power of ten. The models of this library hold whole numbers only, so a floating-point
number is only ever shown in a message.
-/

namespace LinkGuard.Json

/-- A number as the format can write it. -/
inductive Number where
  | natural (value : Nat)
  | negative (value : Int)
  | decimal (value : Float)

/-- How messages call it. -/
def Number.found : Number → Found
  | .natural value => .integer value
  | .negative value => .integer value
  | .decimal value => .decimal value

namespace Number

/-- The largest whole number of 64 bits. -/
def largest : Nat := Nat.pow 2 64 - 1

/-- A decimal digit. -/
def isDigit (byte : UInt8) : Bool :=
  0x30 ≤ byte && byte ≤ 0x39

/-- An `e` in either case. -/
def isExponentMark (byte : UInt8) : Bool :=
  byte == 0x65 || byte == 0x45

/-- The value of a decimal digit. -/
def digitValue (byte : UInt8) : Nat :=
  byte.toNat - 0x30

/-- Passes a run of digits and gives them. -/
def digits : Reader (List UInt8) := fun cursor =>
  let run := cursor.rest.takeWhile isDigit
  .ok (run, ⟨cursor.rest.dropWhile isDigit, cursor.line, cursor.column + run.length⟩)

/-- Appends digits to a significand for as long as 64 bits suffice; also how many were taken. -/
def extend (significand taken : Nat) : List UInt8 → Nat × Nat
  | [] => (significand, taken)
  | digit :: rest =>
    let longer := significand * 10 + digitValue digit
    if longer ≤ largest then extend longer (taken + 1) rest else (significand, taken)

/-- `value · 10 ^ exponent`. Powers beyond the range of a double are applied in two steps, and a
result that is not finite is refused. -/
def scale (value : Float) (exponent : Int) : Nat → Option Float
  | 0 => some value
  | steps + 1 =>
    if exponent.natAbs ≤ 308 then
      let power := Float.ofScientific 1 false exponent.natAbs
      if 0 ≤ exponent then
        let scaled := value * power
        if scaled.isInf then none else some scaled
      else some (value / power)
    else if value == 0.0 then some value
    else if 0 ≤ exponent then none
    else scale (value / 1e308) (exponent + 308) steps

/-- A floating-point number from its parts. -/
def ofParts (positive : Bool) (significand : Nat) (exponent : Int) : Reader Number :=
  match scale (Float.ofNat significand) exponent 4 with
  | none => Reader.fail .numberOutOfRange
  | some value => pure (.decimal (if positive then value else -value))

/-- How many digits of an exponent can be read before it exceeds 32 bits. -/
def exponentOverflow? (value read : Nat) : List UInt8 → Option Nat
  | [] => none
  | digit :: rest =>
    let longer := value * 10 + digitValue digit
    if Nat.pow 2 31 ≤ longer then some (read + 1) else exponentOverflow? longer (read + 1) rest

/-- Reads an exponent whose mark is ahead. -/
def exponent (positive : Bool) (significand : Nat) (starting : Int) : Reader Number := do
  Reader.advance
  let sign ← Reader.peek
  if sign = some 0x2B ∨ sign = some 0x2D then Reader.advance
  match ← Reader.next with
  | none => Reader.fail .endInValue
  | some first =>
    if !isDigit first then Reader.fail .invalidNumber
    else
      let cursor ← get
      let rest ← digits
      match exponentOverflow? 0 0 (first :: rest) with
      | some read =>
        if significand ≠ 0 ∧ sign ≠ some 0x2D then
          throw ⟨.numberOutOfRange, cursor.line, cursor.column + (read - 1)⟩
        else pure (.decimal (if positive then 0.0 else -0.0))
      | none =>
        let add (value : Nat) (digit : UInt8) := value * 10 + digitValue digit
        let value := (first :: rest).foldl add 0
        let exponent := if sign = some 0x2D then starting - value else starting + value
        ofParts positive significand exponent

/-- Ends a number whose digits before the point are behind. -/
def afterDigits (positive : Bool) (significand : Nat) (starting : Int) : Reader Number := do
  match ← Reader.peek with
  | some mark =>
    if isExponentMark mark then exponent positive significand starting
    else ofParts positive significand starting
  | none => ofParts positive significand starting

/-- Reads a fraction whose point is ahead. -/
def fraction (positive : Bool) (significand : Nat) (starting : Int) : Reader Number := do
  Reader.advance
  let run ← digits
  if run = [] then
    match ← Reader.peek with
    | none => Reader.failAhead .endInValue
    | some _ => Reader.failAhead .invalidNumber
  else
    let (significand, taken) := extend significand 0 run
    afterDigits positive significand (starting - (taken : Int))

/-- A whole number that fits 64 bits. A negative one beyond 63 bits, or zero, is a
floating-point number. -/
def whole (positive : Bool) (significand : Nat) : Number :=
  if positive then .natural significand
  else if 0 < significand ∧ significand ≤ Nat.pow 2 63 then .negative (-(significand : Int))
  else .decimal (-(Float.ofNat significand))

/-- Reads a number whose sign, if any, is behind. -/
def read (positive : Bool) : Reader Number := do
  match ← Reader.next with
  | none => Reader.fail .endInValue
  | some first =>
    if !isDigit first then Reader.fail .invalidNumber
    else
      let run ← if first = 0x30 then pure [] else digits
      let ahead ← Reader.peek
      if first = 0x30 ∧ ahead.any isDigit then Reader.failAhead .invalidNumber
      else
        let (significand, taken) := extend 0 0 (first :: run)
        let dropped : Int := (run.length + 1 - taken : Nat)
        if ahead = some 0x2E then fraction positive significand dropped
        else if ahead.any isExponentMark then exponent positive significand dropped
        else if dropped = 0 then pure (whole positive significand)
        else ofParts positive significand dropped

/-- Passes the exponent of a number nobody asked for. -/
def skipExponent : Reader Unit := do
  Reader.advance
  let sign ← Reader.peek
  if sign = some 0x2B ∨ sign = some 0x2D then Reader.advance
  match ← Reader.next with
  | none => Reader.fail .invalidNumber
  | some first =>
    if isDigit first then discard digits else Reader.fail .invalidNumber

/-- Passes a number nobody asked for, its sign behind. Only the form is checked. -/
def skip : Reader Unit := do
  match ← Reader.next with
  | none => Reader.fail .invalidNumber
  | some first =>
    if !isDigit first then Reader.fail .invalidNumber
    else
      let _ ← if first = 0x30 then pure [] else digits
      let ahead ← Reader.peek
      if first = 0x30 ∧ ahead.any isDigit then Reader.failAhead .invalidNumber
      else if ahead = some 0x2E then
        Reader.advance
        let run ← digits
        if run = [] then Reader.failAhead .invalidNumber
        else if (← Reader.peek).any isExponentMark then skipExponent
      else if ahead.any isExponentMark then skipExponent

end Number

end LinkGuard.Json
